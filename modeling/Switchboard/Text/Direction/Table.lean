/-!
Which way each character of a name runs. A word is the first code point of a run, a dot and its
label: `l` for left to right, `r` for right to left, `e` for European and `a` for Arabic digits, `m`
for marks that follow their base, `o` for characters that run either way and `w` for blanks.
Unicode 15.
-/

namespace Switchboard.Text

def directionTable : String := "
0.o 9.w e.o 1c.w 21.o 30.e 3a.o 41.l 5b.o 61.l 7b.o df.l f7.o f8.l 2b9.o 2bb.l 2c2.o 2d0.l 2d2.o
2ee.l 2ef.o 300.m 371.l 375.o 377.l 3f6.o 3f8.l 483.m 48b.l 58a.o 591.m 5be.r 5bf.m 5c0.r 5c1.m
5c3.r 5c4.m 5c6.r 5c7.m 5d0.r 606.o 608.r 609.o 60b.r 60c.o 60d.r 60e.o 610.m 61b.r 64b.m 660.a
66a.o 66b.a 66d.r 670.m 671.r 6d6.m 6de.o 6df.m 6e5.r 6e7.m 6e9.o 6ea.m 6ee.r 6f0.e 6fa.r 711.m
712.r 730.m 74d.r 7a6.m 7b1.r 7eb.m 7f4.r 7f6.o 7fa.r 7fd.m 7fe.r 816.m 81a.r 81b.m 824.r 825.m
828.r 829.m 830.r 859.m 85e.r 898.m 8a0.r 8ca.m 903.l 93a.m 93b.l 93c.m 93d.l 941.m 949.l 94d.m
94e.l 951.m 960.l 962.m 964.l 981.m 982.l 9bc.m 9bd.l 9c1.m 9c7.l 9cd.m 9ce.l 9e2.m 9e6.l 9f2.o
9f4.l 9fb.o 9fc.l 9fe.m a03.l a3c.m a3e.l a41.m a5c.l a70.m a72.l a75.m a76.l a81.m a83.l abc.m
abd.l ac1.m ac9.l acd.m ad0.l ae2.m ae6.l af1.o af9.l afa.m b02.l b3c.m b3d.l b3f.m b40.l b41.m
b47.l b4d.m b57.l b62.m b66.l b82.m b83.l bc0.m bc1.l bcd.m bd0.l bf3.o c00.m c01.l c04.m c05.l
c3c.m c3d.l c3e.m c41.l c46.m c58.l c62.m c66.l c78.o c7f.l c81.m c82.l cbc.m cbd.l ccc.m cd5.l
ce2.m ce6.l d00.m d02.l d3b.m d3d.l d41.m d46.l d4d.m d4e.l d62.m d66.l d81.m d82.l dca.m dcf.l
dd2.m dd8.l e31.m e32.l e34.m e3f.o e40.l e47.m e4f.l eb1.m eb2.l eb4.m ebd.l ec8.m ed0.l f18.m
f1a.l f35.m f36.l f37.m f38.l f39.m f3a.o f3e.l f71.m f7f.l f80.m f85.l f86.m f88.l f8d.m fbe.l
fc6.m fc7.l 102d.m 1031.l 1032.m 1038.l 1039.m 103b.l 103d.m 103f.l 1058.m 105a.l 105e.m 1061.l
1071.m 1075.l 1082.m 1083.l 1085.m 1087.l 108d.m 108e.l 109d.m 109e.l 135d.m 1360.l 1390.o 13a0.l
1400.o 1401.l 169b.o 16a0.l 1712.m 1715.l 1732.m 1734.l 1752.m 1760.l 1772.m 1780.l 17b7.m 17be.l
17c6.m 17c7.l 17c9.m 17d4.l 17db.o 17dc.l 17dd.m 17e0.l 17f0.o 1810.l 1885.m 1887.l 18a9.m 18aa.l
1920.m 1923.l 1927.m 1929.l 1932.m 1933.l 1939.m 1940.o 1946.l 19de.o 1a00.l 1a17.m 1a19.l 1a1b.m
1a1e.l 1a56.m 1a57.l 1a58.m 1a61.l 1a62.m 1a63.l 1a65.m 1a6d.l 1a73.m 1a80.l 1ab0.m 1acf.l 1b00.m
1b04.l 1b34.m 1b35.l 1b36.m 1b3b.l 1b3c.m 1b3d.l 1b42.m 1b43.l 1b6b.m 1b74.l 1b80.m 1b82.l 1ba2.m
1ba6.l 1ba8.m 1baa.l 1bab.m 1bae.l 1be6.m 1be7.l 1be8.m 1bea.l 1bed.m 1bee.l 1bef.m 1bf2.l 1c2c.m
1c34.l 1c36.m 1c3b.l 1cd0.m 1cd3.l 1cd4.m 1ce1.l 1ce2.m 1ce9.l 1ced.m 1cee.l 1cf4.m 1cf5.l 1cf8.m
1cfa.l 1dc0.m 1e01.l 200c.o 20d0.m 2104.o 214e.l 218a.o 2336.l 237b.o 2395.l 2396.o 2427.l 2440.o
26ac.l 26ad.o 2800.l 2900.o 2b96.l 2b97.o 2c30.l 2ce5.o 2cec.l 2cef.m 2cf3.l 2cf9.o 2d00.l 2d7f.m
2d80.l 2de0.m 2e00.o 3005.l 3008.o 3021.l 302a.m 302e.l 3030.o 3031.l 3037.o 303b.l 303d.o 3041.l
3099.m 309d.l 30a0.o 30a1.l 30fb.o 30fc.l 31c0.o 31e4.l 4dc0.o 4dc1.l a490.o a4d0.l a60d.o a610.l
a66f.m a673.o a674.m a67e.o a681.l a69e.m a6a0.l a6f0.m a6f2.l a700.o a723.l a788.o a789.l a802.m
a803.l a806.m a807.l a80b.m a80c.l a825.m a827.l a828.o a82c.m a830.l a838.o a840.l a874.o a880.l
a8c4.m a8ce.l a8e0.m a8f2.l a8ff.m a900.l a926.m a92e.l a947.m a952.l a980.m a983.l a9b3.m a9b4.l
a9b6.m a9ba.l a9bc.m a9be.l a9e5.m a9e6.l aa29.m aa2f.l aa31.m aa33.l aa35.m aa40.l aa43.m aa44.l
aa4c.m aa4d.l aa7c.m aa7d.l aab0.m aab1.l aab2.m aab5.l aab7.m aab9.l aabe.m aac0.l aac1.m aac2.l
aaec.m aaee.l aaf6.m ab01.l ab6a.o abc0.l abe5.m abe6.l abe8.m abe9.l abed.m abf0.l fb1e.m fbb2.r
fd3e.o fd90.r fdcf.o fe20.m fe45.o fe73.r 10000.l 10101.o 10102.l 10140.o 1018d.l 10190.o 101d0.l
101fd.m 10280.l 102e0.m 102e1.e 10300.l 10376.m 10380.l 10800.r 1091f.o 10920.r 10a01.m 10a10.r
10a38.m 10a40.r 10ae5.m 10aeb.r 10b39.o 10b40.r 10d24.m 10d30.a 10d40.r 10e60.a 10e80.r 10eab.m
10ead.r 10efd.m 10f00.r 10f46.m 10f51.r 10f82.m 10f86.r 11000.l 11001.m 11002.l 11038.m 11047.l
11052.o 11066.l 11070.m 11071.l 11073.m 11075.l 1107f.m 11082.l 110b3.m 110b7.l 110b9.m 110bb.l
110c2.m 110d0.l 11100.m 11103.l 11127.m 1112c.l 1112d.m 11136.l 11173.m 11174.l 11180.m 11182.l
111b6.m 111bf.l 111c9.m 111cd.l 111cf.m 111d0.l 1122f.m 11232.l 11234.m 11235.l 11236.m 11238.l
1123e.m 1123f.l 11241.m 11280.l 112df.m 112e0.l 112e3.m 112f0.l 11300.m 11302.l 1133b.m 1133d.l
11340.m 11341.l 11366.m 11380.l 11438.m 11440.l 11442.m 11445.l 11446.m 11447.l 1145e.m 1145f.l
114b3.m 114b9.l 114ba.m 114bb.l 114bf.m 114c1.l 114c2.m 114c4.l 115b2.m 115b8.l 115bc.m 115be.l
115bf.m 115c1.l 115dc.m 11600.l 11633.m 1163b.l 1163d.m 1163e.l 1163f.m 11641.l 11660.o 11680.l
116ab.m 116ac.l 116ad.m 116ae.l 116b0.m 116b6.l 116b7.m 116b8.l 1171d.m 11720.l 11722.m 11726.l
11727.m 11730.l 1182f.m 11838.l 11839.m 1183b.l 1193b.m 1193d.l 1193e.m 1193f.l 11943.m 11944.l
119d4.m 119dc.l 119e0.m 119e1.l 11a01.m 11a07.l 11a09.m 11a0b.l 11a33.m 11a39.l 11a3b.m 11a3f.l
11a47.m 11a50.l 11a51.m 11a57.l 11a59.m 11a5c.l 11a8a.m 11a97.l 11a98.m 11a9a.l 11c30.m 11c3e.l
11c92.m 11ca9.l 11caa.m 11cb1.l 11cb2.m 11cb4.l 11cb5.m 11d00.l 11d31.m 11d46.l 11d47.m 11d50.l
11d90.m 11d93.l 11d95.m 11d96.l 11d97.m 11d98.l 11ef3.m 11ef5.l 11f00.m 11f02.l 11f36.m 11f3e.l
11f40.m 11f41.l 11f42.m 11f43.l 11fd5.o 11fff.l 13440.m 13441.l 13447.m 13460.l 16af0.m 16af5.l
16b30.m 16b37.l 16f4f.m 16f50.l 16f8f.m 16f93.l 16fe2.o 16fe3.l 16fe4.m 16ff0.l 1bc9d.m 1bc9f.l
1cf00.m 1cf50.l 1d167.m 1d16a.l 1d17b.m 1d183.l 1d185.m 1d18c.l 1d1aa.m 1d1ae.l 1d1e9.o 1d242.m
1d245.o 1d2c0.l 1d300.o 1d360.l 1da00.m 1da37.l 1da3b.m 1da6d.l 1da75.m 1da76.l 1da84.m 1da85.l
1da9b.m 1df00.l 1e000.m 1e100.l 1e130.m 1e137.l 1e2ae.m 1e2c0.l 1e2ec.m 1e2f0.l 1e2ff.o 1e4d0.l
1e4ec.m 1e4f0.l 1e800.r 1e8d0.m 1e922.r 1e944.m 1e94b.r 1eef0.o 1f150.l 1f16d.o 1f170.l 1f1ad.o
1f1e6.l 1f260.o 1f6d8.l 1f6dc.o 1f777.l 1f77b.o 1f8b2.l 1f900.o 1fa54.l 1fa60.o 1fa89.l 1fa90.o
1fabe.l 1fabf.o 1fac6.l 1face.o 1fadc.l 1fae0.o 1fae9.l 1faf0.o 1fbcb.l"

end Switchboard.Text
