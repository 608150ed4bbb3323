import Switchboard.Message.Basic

namespace Switchboard.Link

structure Numbered where
  id : Message.Id
  request : Message.Request
  deriving DecidableEq

structure Backlog where
  items : List Numbered := []
  deriving DecidableEq

def Backlog.push (b : Backlog) (n : Numbered) : Backlog := ⟨b.items ++ [n]⟩

def Backlog.flush (b : Backlog) : List Numbered × Backlog := (b.items, {})

def Backlog.clear (_ : Backlog) : Backlog := {}

def Backlog.size (b : Backlog) : Nat := b.items.length

end Switchboard.Link
