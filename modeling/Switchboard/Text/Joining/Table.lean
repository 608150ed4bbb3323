/-!
How each character of a name joins its neighbours. A word is the first code point of a run, a dot
and its label: `b` for both sides, `l` for the left and `r` for the right one, `t` for characters
that joining looks through and `n` for the others. Unicode 15.
-/

namespace Switchboard.Text

def joiningTable : String := "
0.n 300.t 371.n 483.t 48b.n 591.t 5be.n 5bf.t 5c0.n 5c1.t 5c3.n 5c4.t 5c6.n 5c7.t 5d0.n 610.t
61b.n 620.b 621.n 622.r 626.b 627.r 628.b 629.r 62a.b 62f.r 633.b 640.n 641.b 648.r 649.b 64b.t
660.n 66e.b 670.t 671.r 674.n 679.b 688.r 69a.b 6c0.r 6c1.b 6c3.r 6cc.b 6cd.r 6ce.b 6cf.r 6d0.b
6d2.r 6d4.n 6d5.r 6d6.t 6de.n 6df.t 6e5.n 6e7.t 6e9.n 6ea.t 6ee.r 6f0.n 6fa.b 6fd.n 6ff.b 700.n
710.r 711.t 712.b 715.r 71a.b 71e.r 71f.b 728.r 729.b 72a.r 72b.b 72c.r 72d.b 72f.r 730.t 74d.r
74e.b 759.r 75c.b 76b.r 76d.b 771.r 772.b 773.r 775.b 778.r 77a.b 780.n 7a6.t 7b1.n 7ca.b 7eb.t
7f4.n 7fd.t 7fe.n 816.t 81a.n 81b.t 824.n 825.t 828.n 829.t 830.n 840.r 841.b 846.r 848.b 849.r
84a.b 854.r 855.b 856.r 859.t 85e.n 860.b 861.n 862.b 866.n 867.r 868.b 869.r 883.n 886.b 887.n
889.b 88e.r 88f.n 898.t 8a0.b 8aa.r 8ad.n 8ae.r 8af.b 8b1.r 8b3.b 8b9.r 8ba.b 8c9.n 8ca.t 903.n
93a.t 93b.n 93c.t 93d.n 941.t 949.n 94d.t 94e.n 951.t 960.n 962.t 964.n 981.t 982.n 9bc.t 9bd.n
9c1.t 9c7.n 9cd.t 9ce.n 9e2.t 9e6.n 9fe.t a03.n a3c.t a3e.n a41.t a5c.n a70.t a72.n a75.t a76.n
a81.t a83.n abc.t abd.n ac1.t ac9.n acd.t ad0.n ae2.t ae6.n afa.t b02.n b3c.t b3d.n b3f.t b40.n
b41.t b47.n b4d.t b57.n b62.t b66.n b82.t b83.n bc0.t bc1.n bcd.t bd0.n c00.t c01.n c04.t c05.n
c3c.t c3d.n c3e.t c41.n c46.t c58.n c62.t c66.n c81.t c82.n cbc.t cbd.n cbf.t cc0.n cc6.t cc7.n
ccc.t cd5.n ce2.t ce6.n d00.t d02.n d3b.t d3d.n d41.t d46.n d4d.t d4e.n d62.t d66.n d81.t d82.n
dca.t dcf.n dd2.t dd8.n e31.t e32.n e34.t e3f.n e47.t e4f.n eb1.t eb2.n eb4.t ebd.n ec8.t ed0.n
f18.t f1a.n f35.t f36.n f37.t f38.n f39.t f3a.n f71.t f7f.n f80.t f85.n f86.t f88.n f8d.t fbe.n
fc6.t fc7.n 102d.t 1031.n 1032.t 1038.n 1039.t 103b.n 103d.t 103f.n 1058.t 105a.n 105e.t 1061.n
1071.t 1075.n 1082.t 1083.n 1085.t 1087.n 108d.t 108e.n 109d.t 109e.n 135d.t 1360.n 1712.t 1715.n
1732.t 1734.n 1752.t 1760.n 1772.t 1780.n 17b7.t 17be.n 17c6.t 17c7.n 17c9.t 17d4.n 17dd.t 17e0.n
1807.b 1808.n 1820.b 1880.n 1885.t 1887.b 18a9.t 18aa.b 18b0.n 1920.t 1923.n 1927.t 1929.n 1932.t
1933.n 1939.t 1940.n 1a17.t 1a19.n 1a1b.t 1a1e.n 1a56.t 1a57.n 1a58.t 1a61.n 1a62.t 1a63.n 1a65.t
1a6d.n 1a73.t 1a80.n 1ab0.t 1acf.n 1b00.t 1b04.n 1b34.t 1b35.n 1b36.t 1b3b.n 1b3c.t 1b3d.n 1b42.t
1b43.n 1b6b.t 1b74.n 1b80.t 1b82.n 1ba2.t 1ba6.n 1ba8.t 1baa.n 1bab.t 1bae.n 1be6.t 1be7.n 1be8.t
1bea.n 1bed.t 1bee.n 1bef.t 1bf2.n 1c2c.t 1c34.n 1c36.t 1c3b.n 1cd0.t 1cd3.n 1cd4.t 1ce1.n 1ce2.t
1ce9.n 1ced.t 1cee.n 1cf4.t 1cf5.n 1cf8.t 1cfa.n 1dc0.t 1e01.n 20d0.t 2104.n 2cef.t 2cf3.n 2d7f.t
2d80.n 2de0.t 2e00.n 302a.t 302e.n 3099.t 309d.n a66f.t a673.n a674.t a67e.n a69e.t a6a0.n a6f0.t
a6f2.n a802.t a803.n a806.t a807.n a80b.t a80c.n a825.t a827.n a82c.t a830.n a840.b a872.l a873.n
a8c4.t a8ce.n a8e0.t a8f2.n a8ff.t a900.n a926.t a92e.n a947.t a952.n a980.t a983.n a9b3.t a9b4.n
a9b6.t a9ba.n a9bc.t a9be.n a9e5.t a9e6.n aa29.t aa2f.n aa31.t aa33.n aa35.t aa40.n aa43.t aa44.n
aa4c.t aa4d.n aa7c.t aa7d.n aab0.t aab1.n aab2.t aab5.n aab7.t aab9.n aabe.t aac0.n aac1.t aac2.n
aaec.t aaee.n aaf6.t ab01.n abe5.t abe6.n abe8.t abe9.n abed.t abf0.n fb1e.t fbb2.n fe20.t fe45.n
101fd.t 10280.n 102e0.t 102e1.n 10376.t 10380.n 10a01.t 10a10.n 10a38.t 10a40.n 10ac0.b 10ac5.r
10ac6.n 10ac7.r 10ac8.n 10ac9.r 10acb.n 10acd.l 10ace.r 10ad3.b 10ad7.l 10ad8.b 10add.r 10ade.b
10ae1.r 10ae2.n 10ae4.r 10ae5.t 10aeb.b 10aef.r 10af0.n 10b80.b 10b81.r 10b82.b 10b83.r 10b86.b
10b89.r 10b8a.b 10b8c.r 10b8d.b 10b8e.r 10b90.b 10b91.r 10b99.n 10ba9.r 10bad.b 10baf.n 10d00.l
10d01.b 10d22.r 10d23.b 10d24.t 10d30.n 10eab.t 10ead.n 10efd.t 10f00.n 10f30.b 10f33.r 10f34.b
10f45.n 10f46.t 10f51.b 10f54.r 10f55.n 10f70.b 10f74.r 10f76.b 10f82.t 10f86.n 10fb0.b 10fb1.n
10fb2.b 10fb4.r 10fb7.n 10fb8.b 10fb9.r 10fbb.b 10fbd.r 10fbe.b 10fc0.n 10fc1.b 10fc2.r 10fc4.b
10fc5.n 10fc9.r 10fca.b 10fcb.l 10fe0.n 11001.t 11002.n 11038.t 11047.n 11070.t 11071.n 11073.t
11075.n 1107f.t 11082.n 110b3.t 110b7.n 110b9.t 110bb.n 110c2.t 110d0.n 11100.t 11103.n 11127.t
1112c.n 1112d.t 11136.n 11173.t 11174.n 11180.t 11182.n 111b6.t 111bf.n 111c9.t 111cd.n 111cf.t
111d0.n 1122f.t 11232.n 11234.t 11235.n 11236.t 11238.n 1123e.t 1123f.n 11241.t 11280.n 112df.t
112e0.n 112e3.t 112f0.n 11300.t 11302.n 1133b.t 1133d.n 11340.t 11341.n 11366.t 11380.n 11438.t
11440.n 11442.t 11445.n 11446.t 11447.n 1145e.t 1145f.n 114b3.t 114b9.n 114ba.t 114bb.n 114bf.t
114c1.n 114c2.t 114c4.n 115b2.t 115b8.n 115bc.t 115be.n 115bf.t 115c1.n 115dc.t 11600.n 11633.t
1163b.n 1163d.t 1163e.n 1163f.t 11641.n 116ab.t 116ac.n 116ad.t 116ae.n 116b0.t 116b6.n 116b7.t
116b8.n 1171d.t 11720.n 11722.t 11726.n 11727.t 11730.n 1182f.t 11838.n 11839.t 1183b.n 1193b.t
1193d.n 1193e.t 1193f.n 11943.t 11944.n 119d4.t 119dc.n 119e0.t 119e1.n 11a01.t 11a0b.n 11a33.t
11a39.n 11a3b.t 11a3f.n 11a47.t 11a50.n 11a51.t 11a57.n 11a59.t 11a5c.n 11a8a.t 11a97.n 11a98.t
11a9a.n 11c30.t 11c3e.n 11c3f.t 11c40.n 11c92.t 11ca9.n 11caa.t 11cb1.n 11cb2.t 11cb4.n 11cb5.t
11d00.n 11d31.t 11d46.n 11d47.t 11d50.n 11d90.t 11d93.n 11d95.t 11d96.n 11d97.t 11d98.n 11ef3.t
11ef5.n 11f00.t 11f02.n 11f36.t 11f3e.n 11f40.t 11f41.n 11f42.t 11f43.n 13440.t 13441.n 13447.t
13460.n 16af0.t 16af5.n 16b30.t 16b37.n 16f4f.t 16f50.n 16f8f.t 16f93.n 16fe4.t 16ff0.n 1bc9d.t
1bc9f.n 1cf00.t 1cf50.n 1d167.t 1d16a.n 1d17b.t 1d183.n 1d185.t 1d18c.n 1d1aa.t 1d1ae.n 1d242.t
1d245.n 1da00.t 1da37.n 1da3b.t 1da6d.n 1da75.t 1da76.n 1da84.t 1da85.n 1da9b.t 1df00.n 1e000.t
1e100.n 1e130.t 1e137.n 1e2ae.t 1e2c0.n 1e2ec.t 1e2f0.n 1e4ec.t 1e4f0.n 1e8d0.t 1e922.b 1e944.t
1e950.n"

end Switchboard.Text
