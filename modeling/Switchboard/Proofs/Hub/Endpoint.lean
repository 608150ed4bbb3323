import Switchboard.Hub.Endpoint
import Switchboard.Proofs.Address.Parts

namespace Switchboard.Hub

open Address

variable {e : Endpoint} {u : Address} {xs ys p q : List Char} {c d : Char}

/-- The host as it is read: without tabs, line breaks and the slashes before it. -/
def Endpoint.hostText (e : Endpoint) : List Char :=
  (unbroken e.host.toList).dropWhile (isSlash true)

def Endpoint.placeText (e : Endpoint) : List Char :=
  e.hostText ++ ':' :: Nat.toDigits 10 e.port

theorem unbroken_toDigits (n : Nat) : unbroken (Nat.toDigits 10 n) = Nat.toDigits 10 n := by
  refine List.filter_eq_self.mpr fun c hc => ?_
  have hdigit := isDigit_of_mem_toDigits hc
  simp only [Bool.and_eq_true, bne_iff_ne]
  refine ⟨⟨?_, ?_⟩, ?_⟩ <;> (rintro rfl; cases hdigit)

/-- The text that counts of an endpoint's address. -/
theorem essence_textAt (e : Endpoint) {path : String} (hpath : path.toList = p ++ c :: q)
    (hc : isEdge c = false) : essence (e.textAt path).toList =
      'w' :: 's' :: ':' :: '/' :: '/' ::
        (unbroken e.host.toList ++ ':' ::
          (Nat.toDigits 10 e.port ++ (unbroken (p ++ [c]) ++ ending q))) := by
  have htext : (e.textAt path).toList =
      'w' :: ("s://".toList ++ (e.host.toList ++ (":".toList ++ (Nat.toDigits 10 e.port ++ p)))) ++
        c :: q := by
    simp [Endpoint.textAt, hpath]
  have hscheme : unbroken "s://".toList = "s://".toList := by decide
  have hcolon : unbroken ":".toList = ":".toList := by decide
  have hw : ∀ cs, unbroken ('w' :: cs) = 'w' :: unbroken cs := fun _ => rfl
  rw [htext, essence_append (by decide) hc]
  simp only [List.cons_append, List.append_assoc, hw, unbroken_append, hscheme, hcolon,
    unbroken_toDigits]
  rfl

/-- An address of an endpoint is read from the text behind the scheme, at whose first end the
authority stops. -/
theorem parse_textAt {path : String} (hpath : path.toList = p ++ c :: q) (hc : isEdge c = false)
    (hsplit : e.placeText ++ (unbroken (p ++ [c]) ++ ending q) = xs ++ d :: ys)
    (hxs : Unended xs) (hd : endsPart true d = true) :
    parse (e.textAt path) = (readAuthority "ws" xs).map fun r => withRest r.1 (d :: ys) := by
  refine ofChars_ws (essence_textAt e hpath hc) ?_ hxs hd
  have hslashes : ∀ cs : List Char, ('/' :: '/' :: (unbroken e.host.toList ++ ':' :: cs)).dropWhile
      (isSlash true) = e.hostText ++ ':' :: cs := by
    intro cs
    rw [List.dropWhile_cons_of_pos rfl, List.dropWhile_cons_of_pos rfl, List.dropWhile_append]
    split
    · rename_i hnil
      rw [Endpoint.hostText, List.isEmpty_iff.mp hnil]
      rfl
    · rfl
  rw [hslashes, ← hsplit, Endpoint.placeText, List.append_assoc]
  rfl

/-- An address that is none says so, with the whole text. -/
theorem addressAt_eq (e : Endpoint) (path : String) :
    e.addressAt path = (parse (e.textAt path)).mapError fun fault => ⟨e.textAt path, fault⟩ :=
  rfl

/-- The address at a path, when the authority stops where the path begins. -/
theorem addressAt_ok_iff {path : String} (hhost : Unended e.hostText)
    (hpath : path.toList = '/' :: p ++ c :: q) (hc : isEdge c = false) :
    e.addressAt path = .ok u ↔ ∃ a, readAuthority "ws" e.placeText = .ok (a, []) ∧
      u = withRest a ('/' :: (unbroken (p ++ [c]) ++ ending q)) := by
  have hxs : Unended e.placeText := host_port_unended hhost e.port
  have hslash : unbroken ('/' :: p ++ [c]) = '/' :: unbroken (p ++ [c]) := rfl
  rw [addressAt_eq, parse_textAt hpath hc (by rw [hslash]; rfl) hxs rfl]
  cases hread : readAuthority "ws" e.placeText with
  | error fault => simp [Except.map, Except.mapError]
  | ok r =>
    obtain ⟨a, rest⟩ := r
    obtain rfl := readAuthority_rest hxs hread
    simp [Except.map, Except.mapError, eq_comm]

/-- An address leads to the control channel of an endpoint: to its port, for nobody in particular,
and with nothing behind the path. -/
structure Endpoint.ControlledAt (e : Endpoint) (u : Address) : Prop where
  port : u.port? = some e.port
  user : ∃ a, u.authority = some a ∧ a.credentials.user = ""
  path : u.path = .steps ["ctl"]
  query : u.query = none
  fragment : u.fragment = none

/-- The first end of an authority in a text. -/
theorem exists_first_end {cs : List Char} (h : ¬Unended cs) :
    ∃ xs d ys, cs = xs ++ d :: ys ∧ Unended xs ∧ endsPart true d = true := by
  have hne : cs.dropWhile (!endsPart true ·) ≠ [] := by
    intro hnil
    refine h fun c hc => ?_
    simpa using List.dropWhile_eq_nil_iff.mp hnil c hc
  obtain ⟨d, ys, hdrop⟩ := List.exists_cons_of_ne_nil hne
  refine ⟨cs.takeWhile (!endsPart true ·), d, ys, ?_, fun c hc => ?_, ?_⟩
  · rw [← hdrop, List.takeWhile_append_dropWhile]
  · simpa using List.mem_takeWhile_imp hc
  · simpa [hdrop] using List.head_dropWhile_not (!endsPart true ·) hne

theorem withRest_ctl (a : Authority) : withRest a "/ctl".toList =
    { scheme := "ws", authority := some a, path := .steps ["ctl"], query := none,
      fragment := none } := rfl

/-- As long as the host holds no end of an authority, the address of the control channel is its
authority with the path, whatever that authority is. -/
theorem control_ok_iff (hhost : Unended e.hostText) : e.control = .ok u ↔
    ∃ a, readAuthority "ws" e.placeText = .ok (a, []) ∧
      u = { scheme := "ws", authority := some a, path := .steps ["ctl"], query := none,
            fragment := none } := by
  have hpath : "/ctl".toList = '/' :: "ct".toList ++ 'l' :: [] := rfl
  simp only [Endpoint.control, addressAt_ok_iff hhost hpath rfl, ← withRest_ctl]
  rfl

/-- Behind an end of the authority that comes too early there is a query, a fragment or another
path. -/
theorem withRest_early {a : Authority} (n : Nat) (hd : endsPart true d = true) (cs : List Char)
    (hq : (withRest a (d :: cs ++ ':' :: (Nat.toDigits 10 n ++ "/ctl".toList))).query = none)
    (hf : (withRest a (d :: cs ++ ':' :: (Nat.toDigits 10 n ++ "/ctl".toList))).fragment = none) :
    (withRest a (d :: cs ++ ':' :: (Nat.toDigits 10 n ++ "/ctl".toList))).path ≠
      .steps ["ctl"] := by
  rw [List.cons_append] at hq hf ⊢
  generalize htail : cs ++ ':' :: (Nat.toDigits 10 n ++ "/ctl".toList) = tail at hq hf ⊢
  have htrailer : readTrailer true (pathAfter true (d :: tail)).2 = (none, none) :=
    Prod.ext hq hf
  rw [pathAfter_rest hd, readTrailer_none, List.forall_mem_cons] at htrailer
  obtain ⟨⟨hquery, hfragment⟩, htrailer⟩ := htrailer
  have hslash : isSlash true d = true := by simpa [endsPart, hquery, hfragment] using hd
  intro hpath
  have hsteps : pathOf (steps true tail) = .steps ["ctl"] :=
    (pathAfter_slash hslash htrailer).symm.trans hpath
  have hlength := steps_behind_port cs n
  rw [htail] at hlength
  have hone : (steps true tail).length = 1 := by
    simpa using congrArg List.length (Path.steps.inj hsteps)
  omega

/-- The control channel is at the endpoint if and only if the host holds no end of an authority and
names nobody. -/
theorem control_at_endpoint_iff (hu : e.control = .ok u) :
    e.ControlledAt u ↔ Unended e.hostText ∧ Nameless e.hostText := by
  by_cases hhost : Unended e.hostText
  · obtain ⟨a, hread, rfl⟩ := (control_ok_iff hhost).mp hu
    obtain ⟨hport, huser⟩ := readAuthority_port hhost hread
    constructor
    · rintro ⟨-, ⟨b, hb, hnobody⟩, -, -, -⟩
      cases hb
      exact ⟨hhost, huser.mp hnobody⟩
    · rintro ⟨-, hnobody⟩
      exact ⟨hport, ⟨a, rfl, huser.mpr hnobody⟩, rfl, rfl, rfl⟩
  · obtain ⟨xs, d, ys, hsplit, hxs, hd⟩ := exists_first_end hhost
    have hplace : e.placeText ++ (unbroken ("/ct".toList ++ ['l']) ++ ending []) =
        xs ++ d :: (ys ++ ':' :: (Nat.toDigits 10 e.port ++ "/ctl".toList)) := by
      have hctl : unbroken ("/ct".toList ++ ['l']) ++ ending [] = "/ctl".toList := by decide
      simp only [Endpoint.placeText, hsplit, hctl, List.append_assoc, List.cons_append]
    have hpath : "/ctl".toList = "/ct".toList ++ 'l' :: [] := rfl
    have hparse := parse_textAt hpath rfl hplace hxs hd
    rw [Endpoint.control, addressAt_eq, hparse] at hu
    refine iff_of_false ?_ fun h => hhost h.1
    rintro ⟨-, -, hpath, hquery, hfragment⟩
    cases hread : readAuthority "ws" xs with
    | error fault =>
      rw [hread] at hu
      cases hu
    | ok r =>
      rw [hread] at hu
      cases hu
      exact withRest_early e.port hd ys hquery hfragment hpath

/-- A host in which nobody is named, behind slashes that do not count. -/
theorem host_behind_at_is_contacted :
    ({ host := "/\t/@hub" } : Endpoint).control = .ok
        { scheme := "ws", authority := some ⟨{}, .name "hub", some 8372⟩, path := .steps ["ctl"],
          query := none, fragment := none } ∧
      ({ host := "/\t/@hub" } : Endpoint).ControlledAt
        { scheme := "ws", authority := some ⟨{}, .name "hub", some 8372⟩, path := .steps ["ctl"],
          query := none, fragment := none } := by
  have hu : ({ host := "/\t/@hub" } : Endpoint).control = .ok
      { scheme := "ws", authority := some ⟨{}, .name "hub", some 8372⟩, path := .steps ["ctl"],
        query := none, fragment := none } := rfl
  have htext : ({ host := "/\t/@hub" } : Endpoint).hostText = [] ++ '@' :: "hub".toList := rfl
  have hended : ∀ c ∈ [] ++ '@' :: "hub".toList, endsPart true c = false := by
    simp [endsPart, isSlash]
  refine ⟨hu, (control_at_endpoint_iff hu).mpr ⟨htext ▸ hended, fun name rest heq hlast => ?_⟩⟩
  rw [htext] at heq
  obtain ⟨rfl, -⟩ := append_cons_last heq (by decide) hlast
  rfl

/-- A host with a slash: the port is no longer one, and the path is another. -/
theorem slash_in_host_leads_elsewhere :
    ∃ u, ({ host := "a/b" } : Endpoint).control = .ok u ∧
      u.port? ≠ some 8372 ∧ u.path ≠ .steps ["ctl"] :=
  ⟨{ scheme := "ws", authority := some ⟨{}, .name "a", none⟩, path := .steps ["b:8372", "ctl"],
     query := none, fragment := none }, rfl, by decide, by decide⟩

def suffixPieces (suffix : String) : List (List Char) :=
  splitAt (isSlash true) ((ending suffix.toList).takeWhile fun c => c != '?' && c != '#')

/-- The step that a suffix is put into. -/
def suffixStep (suffix : String) : List Char :=
  'w' :: 's' :: percentEncode offPath ((suffixPieces suffix).headD [])

def suffixSteps (suffix : String) : List (List Char) :=
  (suffixPieces suffix).tail.map (percentEncode offPath)

theorem percentEncode_cons (hc : c.toNat < 0x80) (hset : offPath c = false) (cs : List Char) :
    percentEncode offPath (c :: cs) = c :: percentEncode offPath cs := by
  have hplain : (0x80 ≤ c.toNat || offPath c) = false := by simp [hset, hc]
  rw [percentEncode, List.flatMap_cons, hplain]
  rfl

/-- The path of an instance's address is a walk from the step with the suffix. -/
theorem instance_path (a : Authority) (suffix : String) :
    (withRest a ('/' :: 'w' :: 's' :: ending suffix.toList)).path =
      pathOf (walk [suffixStep suffix] (suffixSteps suffix)) := by
  have hpath : (withRest a ('/' :: 'w' :: 's' :: ending suffix.toList)).path =
      pathOf (steps true ('w' :: 's' ::
        (ending suffix.toList).takeWhile fun c => c != '?' && c != '#')) := rfl
  have hgoesOn : GoesOn (suffixStep suffix) :=
    goesOn_of_first (c := 'w') rfl (by decide) (by decide)
  rw [hpath, steps, splitAt_cons rfl, splitAt_cons rfl, ← suffixPieces, List.map_cons,
    List.headD_cons, List.tail_cons, percentEncode_cons (by decide) (by decide),
    percentEncode_cons (by decide) (by decide), ← suffixStep, ← suffixSteps,
    walk_of_goesOn hgoesOn]

/-- The step with a suffix begins with `ws`, and so is no drive. -/
theorem suffixStep_no_drive (suffix : String) : isDrive (suffixStep suffix) = false := by
  rw [suffixStep]
  cases percentEncode offPath ((suffixPieces suffix).headD []) <;> rfl

theorem text_of_first (suffix : String) (rest : List (List Char)) :
    ∃ more, (pathOf (suffixStep suffix :: rest)).text = "/ws" ++ more := by
  refine ⟨String.ofList ((suffixStep suffix).drop 2) ++ (pathOf rest).text, ?_⟩
  rw [← String.toList_inj]
  simp [pathOf, Path.text, suffixStep]

/-- A host without an end of an authority is read as it is, but for tabs and line breaks. -/
theorem hostText_unended (hhost : ∀ c ∈ e.host.toList, c ∉ ['/', '\\', '?', '#']) :
    Unended e.hostText := by
  intro c hc
  have hmem : c ∈ unbroken e.host.toList := (List.dropWhile_suffix _).mem hc
  rw [Bool.eq_false_iff, Ne, endsPart_iff]
  exact hhost c (List.mem_filter.mp hmem).1

/-- The address of an instance is told apart from the control channel, and its path begins with
`/ws`, as long as the suffix does not go up beyond the step it is put into. If it does, the rest of
it is a path of its own, and leads wherever it says. -/
theorem instance_apart_unless_astray {suffix : String}
    (hhost : ∀ c ∈ e.host.toList, c ∉ ['/', '\\', '?', '#']) (hu : e.instanceAt suffix = .ok u) :
    (astray 0 (suffixSteps suffix) = none →
      (∃ rest, u.path.text = "/ws" ++ rest) ∧ e.control ≠ .ok u) ∧
    ∀ behind, astray 0 (suffixSteps suffix) = some behind → u.path = pathOf (fromRoot behind) ∧
      (e.control = .ok u ↔
        pathOf (fromRoot behind) = .steps ["ctl"] ∧ u.query = none ∧ u.fragment = none) := by
  have hended := hostText_unended hhost
  have hpath : ("/ws" ++ suffix).toList = '/' :: "w".toList ++ 's' :: suffix.toList := by simp
  obtain ⟨a, hread, rfl⟩ := (addressAt_ok_iff hended hpath rfl).mp hu
  have hws : '/' :: (unbroken ("w".toList ++ ['s']) ++ ending suffix.toList) =
      '/' :: 'w' :: 's' :: ending suffix.toList := rfl
  rw [hws] at hu ⊢
  have hwalk : LeftOf (suffixStep suffix) (walk [suffixStep suffix] (suffixSteps suffix))
      (astray 0 (suffixSteps suffix)) :=
    walk_leaves (suffixStep_no_drive suffix) (List.forall_mem_nil fun s => isDrive s = false) _
  refine ⟨fun hnone => ?_, fun behind hbehind => ?_⟩
  · rw [hnone] at hwalk
    obtain ⟨rest, hleft⟩ := hwalk
    rw [instance_path, hleft]
    have htext := text_of_first suffix rest
    refine ⟨htext, fun hcontrol => ?_⟩
    obtain ⟨b, -, hb⟩ := (control_ok_iff hended).mp hcontrol
    have hpaths := congrArg Address.path hb
    rw [instance_path, hleft] at hpaths
    -- Both paths begin with a slash, and differ in the letter behind it.
    obtain ⟨more, hmore⟩ := htext
    have hctl : (Path.steps ["ctl"]).text = "/ctl" := by decide
    rw [hpaths, hctl] at hmore
    have hchars := congrArg String.toList hmore
    rw [String.toList_append] at hchars
    have hsecond := (List.cons.inj (List.cons.inj hchars).2).1
    exact absurd hsecond (by decide)
  · rw [hbehind] at hwalk
    have hleft : walk [suffixStep suffix] (suffixSteps suffix) = fromRoot behind := hwalk
    have hpath := instance_path a suffix
    rw [hleft] at hpath
    refine ⟨hpath, ?_⟩
    rw [control_ok_iff hended, ← hpath]
    constructor
    · rintro ⟨b, hb, hu⟩
      rw [hu]
      exact ⟨rfl, rfl, rfl⟩
    · rintro ⟨hpath, hquery, hfragment⟩
      refine ⟨a, hread, ?_⟩
      have hparts : ∀ v w : Address, v.scheme = w.scheme → v.authority = w.authority →
          v.path = w.path → v.query = w.query → v.fragment = w.fragment → v = w := by
        rintro ⟨⟩ ⟨⟩ rfl rfl rfl rfl rfl
        rfl
      exact hparts _ _ rfl rfl hpath hquery hfragment

/-- A suffix that goes up no further than to where it began. -/
theorem level_suffix_stays_apart :
    ({} : Endpoint).instanceAt "1/x/../%2E" = .ok
        { scheme := "ws", authority := some ⟨{}, .name "localhost", some 8372⟩,
          path := .steps ["ws1", ""], query := none, fragment := none } ∧
      ({} : Endpoint).control ≠ ({} : Endpoint).instanceAt "1/x/../%2E" := by
  have hu : ({} : Endpoint).instanceAt "1/x/../%2E" = .ok
      { scheme := "ws", authority := some ⟨{}, .name "localhost", some 8372⟩,
        path := .steps ["ws1", ""], query := none, fragment := none } := rfl
  refine ⟨hu, ?_⟩
  rw [hu]
  exact ((instance_apart_unless_astray (by simp) hu).1 (by decide)).2

/-- A suffix that goes up and down again names the control channel. -/
theorem climbing_suffix_names_control :
    ∃ u, ({} : Endpoint).instanceAt "/../ctl" = .ok u ∧ ({} : Endpoint).control = .ok u ∧
      u.path = .steps ["ctl"] :=
  ⟨{ scheme := "ws", authority := some ⟨{}, .name "localhost", some 8372⟩, path := .steps ["ctl"],
     query := none, fragment := none }, rfl, rfl, rfl⟩

end Switchboard.Hub
