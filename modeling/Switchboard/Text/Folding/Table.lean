/-!
What each character beyond ASCII is folded to in a name. A word is the first code point of a run, a
dot and the run's label: `v` for characters that stay, `x` for those no name may hold, `p` for
capitals that are each followed by their small letter, `s` with the code point the first one folds
to while the others keep their distance from it, and `m` with the code points they all fold to.
Unicode 17.
-/

namespace Switchboard.Text

def foldingTable : String := "
80.x a0.s20 a1.v a8.m20,308 a9.v aa.s61 ab.v ad.m ae.v af.m20,304 b0.v b2.s32 b4.m20,301 b5.s3bc
b6.v b8.m20,327 b9.s31 ba.s6f bb.v bc.m31,2044,34 bd.m31,2044,32 be.m33,2044,34 bf.v c0.se0 d7.v
d8.sf8 df.v 100.p 130.m69,307 131.v 132.m69,6a 134.p 138.v 139.p 13f.m6c,b7 141.p 149.m2bc,6e
14a.p 178.sff 179.p 17f.s73 180.v 181.s253 182.p 186.s254 187.p 189.s256 18b.p 18d.v 18e.s1dd
18f.s259 190.s25b 191.p 193.s260 194.s263 195.v 196.s269 197.s268 198.p 19a.v 19c.s26f 19d.s272
19e.v 19f.s275 1a0.p 1a6.s280 1a7.p 1a9.s283 1aa.v 1ac.p 1ae.s288 1af.p 1b1.s28a 1b3.p 1b7.s292
1b8.p 1ba.v 1bc.p 1be.v 1c4.m64,17e 1c7.m6c,6a 1ca.m6e,6a 1cd.p 1dd.v 1de.p 1f0.v 1f1.m64,7a 1f4.p
1f6.s195 1f7.s1bf 1f8.p 220.s19e 221.v 222.p 234.v 23a.s2c65 23b.p 23d.s19a 23e.s2c66 23f.v 241.p
243.s180 244.s289 245.s28c 246.p 250.v 2b0.s68 2b1.s266 2b2.s6a 2b3.s72 2b4.s279 2b5.s27b 2b6.s281
2b7.s77 2b8.s79 2b9.v 2d8.m20,306 2d9.m20,307 2da.m20,30a 2db.m20,328 2dc.m20,303 2dd.m20,30b
2de.v 2e0.s263 2e1.s6c 2e2.s73 2e3.s78 2e4.s295 2e5.v 340.s300 342.v 343.s313 344.m308,301
345.s3b9 346.v 34f.m 350.v 370.p 374.s2b9 375.v 376.p 378.x 37a.m20,3b9 37b.v 37e.s3b 37f.s3f3
380.x 384.m20,301 385.m20,308,301 386.s3ac 387.sb7 388.s3ad 38b.x 38c.s3cc 38d.x 38e.s3cd 390.v
391.s3b1 3a2.x 3a3.s3c3 3ac.v 3cf.s3d7 3d0.s3b2 3d1.s3b8 3d2.s3c5 3d3.s3cd 3d4.s3cb 3d5.s3c6
3d6.s3c0 3d7.v 3d8.p 3f0.s3ba 3f1.s3c1 3f2.s3c3 3f3.v 3f4.s3b8 3f5.s3b5 3f6.v 3f7.p 3f9.s3c3 3fa.p
3fc.v 3fd.s37b 400.s450 410.s430 430.v 460.p 482.v 48a.p 4c0.s4cf 4c1.p 4cf.v 4d0.p 530.x 531.s561
557.x 559.v 587.m565,582 588.v 58b.x 58d.v 590.x 591.v 5c8.x 5d0.v 5eb.x 5ef.v 5f5.x 606.v 61c.x
61d.v 675.m627,674 676.m648,674 677.m6c7,674 678.m64a,674 679.v 6dd.x 6de.v 70e.x 710.v 74b.x
74d.v 7b2.x 7c0.v 7fb.x 7fd.v 82e.x 830.v 83f.x 840.v 85c.x 85e.v 85f.x 860.v 86b.x 870.v 890.x
897.v 8e2.x 8e3.v 958.m915,93c 959.m916,93c 95a.m917,93c 95b.m91c,93c 95c.m921,93c 95d.m922,93c
95e.m92b,93c 95f.m92f,93c 960.v 984.x 985.v 98d.x 98f.v 991.x 993.v 9a9.x 9aa.v 9b1.x 9b2.v 9b3.x
9b6.v 9ba.x 9bc.v 9c5.x 9c7.v 9c9.x 9cb.v 9cf.x 9d7.v 9d8.x 9dc.m9a1,9bc 9dd.m9a2,9bc 9de.x
9df.m9af,9bc 9e0.v 9e4.x 9e6.v 9ff.x a01.v a04.x a05.v a0b.x a0f.v a11.x a13.v a29.x a2a.v a31.x
a32.v a33.ma32,a3c a34.x a35.v a36.ma38,a3c a37.x a38.v a3a.x a3c.v a3d.x a3e.v a43.x a47.v a49.x
a4b.v a4e.x a51.v a52.x a59.ma16,a3c a5a.ma17,a3c a5b.ma1c,a3c a5c.v a5d.x a5e.ma2b,a3c a5f.x
a66.v a77.x a81.v a84.x a85.v a8e.x a8f.v a92.x a93.v aa9.x aaa.v ab1.x ab2.v ab4.x ab5.v aba.x
abc.v ac6.x ac7.v aca.x acb.v ace.x ad0.v ad1.x ae0.v ae4.x ae6.v af2.x af9.v b00.x b01.v b04.x
b05.v b0d.x b0f.v b11.x b13.v b29.x b2a.v b31.x b32.v b34.x b35.v b3a.x b3c.v b45.x b47.v b49.x
b4b.v b4e.x b55.v b58.x b5c.mb21,b3c b5d.mb22,b3c b5e.x b5f.v b64.x b66.v b78.x b82.v b84.x b85.v
b8b.x b8e.v b91.x b92.v b96.x b99.v b9b.x b9c.v b9d.x b9e.v ba0.x ba3.v ba5.x ba8.v bab.x bae.v
bba.x bbe.v bc3.x bc6.v bc9.x bca.v bce.x bd0.v bd1.x bd7.v bd8.x be6.v bfb.x c00.v c0d.x c0e.v
c11.x c12.v c29.x c2a.v c3a.x c3c.v c45.x c46.v c49.x c4a.v c4e.x c55.v c57.x c58.v c5b.x c5c.v
c5e.x c60.v c64.x c66.v c70.x c77.v c8d.x c8e.v c91.x c92.v ca9.x caa.v cb4.x cb5.v cba.x cbc.v
cc5.x cc6.v cc9.x cca.v cce.x cd5.v cd7.x cdc.v cdf.x ce0.v ce4.x ce6.v cf0.x cf1.v cf4.x d00.v
d0d.x d0e.v d11.x d12.v d45.x d46.v d49.x d4a.v d50.x d54.v d64.x d66.v d80.x d81.v d84.x d85.v
d97.x d9a.v db2.x db3.v dbc.x dbd.v dbe.x dc0.v dc7.x dca.v dcb.x dcf.v dd5.x dd6.v dd7.x dd8.v
de0.x de6.v df0.x df2.v df5.x e01.v e33.me4d,e32 e34.v e3b.x e3f.v e5c.x e81.v e83.x e84.v e85.x
e86.v e8b.x e8c.v ea4.x ea5.v ea6.x ea7.v eb3.mecd,eb2 eb4.v ebe.x ec0.v ec5.x ec6.v ec7.x ec8.v
ecf.x ed0.v eda.x edc.meab,e99 edd.meab,ea1 ede.v ee0.x f00.v f0c.sf0b f0d.v f43.mf42,fb7 f44.v
f48.x f49.v f4d.mf4c,fb7 f4e.v f52.mf51,fb7 f53.v f57.mf56,fb7 f58.v f5c.mf5b,fb7 f5d.v
f69.mf40,fb5 f6a.v f6d.x f71.v f73.mf71,f72 f74.v f75.mf71,f74 f76.mfb2,f80 f77.mfb2,f71,f80
f78.mfb3,f80 f79.mfb3,f71,f80 f7a.v f81.mf71,f80 f82.v f93.mf92,fb7 f94.v f98.x f99.v f9d.mf9c,fb7
f9e.v fa2.mfa1,fb7 fa3.v fa7.mfa6,fb7 fa8.v fac.mfab,fb7 fad.v fb9.mf90,fb5 fba.v fbd.x fbe.v
fcd.x fce.v fdb.x 1000.v 10a0.s2d00 10c6.x 10c7.s2d27 10c8.x 10cd.s2d2d 10ce.x 10d0.v 10fc.s10dc
10fd.v 115f.m 1161.v 1249.x 124a.v 124e.x 1250.v 1257.x 1258.v 1259.x 125a.v 125e.x 1260.v 1289.x
128a.v 128e.x 1290.v 12b1.x 12b2.v 12b6.x 12b8.v 12bf.x 12c0.v 12c1.x 12c2.v 12c6.x 12c8.v 12d7.x
12d8.v 1311.x 1312.v 1316.x 1318.v 135b.x 135d.v 137d.x 1380.v 139a.x 13a0.v 13f6.x 13f8.s13f0
13fe.x 1400.v 1680.x 1681.v 169d.x 16a0.v 16f9.x 1700.v 1716.x 171f.v 1737.x 1740.v 1754.x 1760.v
176d.x 176e.v 1771.x 1772.v 1774.x 1780.v 17b4.m 17b6.v 17de.x 17e0.v 17ea.x 17f0.v 17fa.x 1800.v
180b.m 1810.v 181a.x 1820.v 1879.x 1880.v 18ab.x 18b0.v 18f6.x 1900.v 191f.x 1920.v 192c.x 1930.v
193c.x 1940.v 1941.x 1944.v 196e.x 1970.v 1975.x 1980.v 19ac.x 19b0.v 19ca.x 19d0.v 19db.x 19de.v
1a1c.x 1a1e.v 1a5f.x 1a60.v 1a7d.x 1a7f.v 1a8a.x 1a90.v 1a9a.x 1aa0.v 1aae.x 1ab0.v 1ade.x 1ae0.v
1aec.x 1b00.v 1b4d.x 1b4e.v 1bf4.x 1bfc.v 1c38.x 1c3b.v 1c4a.x 1c4d.v 1c80.s432 1c81.s434
1c82.s43e 1c83.s441 1c85.s442 1c86.s44a 1c87.s463 1c88.sa64b 1c89.p 1c8b.x 1c90.s10d0 1cbb.x
1cbd.s10fd 1cc0.v 1cc8.x 1cd0.v 1cfb.x 1d00.v 1d2c.s61 1d2d.se6 1d2e.s62 1d2f.v 1d30.s64 1d32.s1dd
1d33.s67 1d3b.v 1d3c.s6f 1d3d.s223 1d3e.s70 1d3f.s72 1d40.s74 1d42.s77 1d43.s61 1d44.s250
1d46.s1d02 1d47.s62 1d48.s64 1d4a.s259 1d4b.s25b 1d4d.s67 1d4e.v 1d4f.s6b 1d50.s6d 1d51.s14b
1d52.s6f 1d53.s254 1d54.s1d16 1d56.s70 1d57.s74 1d59.s1d1d 1d5a.s26f 1d5b.s76 1d5c.s1d25 1d5d.s3b2
1d60.s3c6 1d62.s69 1d63.s72 1d64.s75 1d66.s3b2 1d68.s3c1 1d69.s3c6 1d6b.v 1d78.s43d 1d79.v
1d9b.s252 1d9c.s63 1d9d.s255 1d9e.sf0 1d9f.s25c 1da0.s66 1da1.s25f 1da2.s261 1da3.s265 1da4.s268
1da7.s1d7b 1da8.s29d 1da9.s26d 1daa.s1d85 1dab.s29f 1dac.s271 1dad.s270 1dae.s272 1db2.s278
1db3.s282 1db5.s1ab 1db6.s289 1db8.s1d1c 1db9.s28b 1dbb.s7a 1dbc.s290 1dbf.s3b8 1dc0.v 1e00.p
1e96.v 1e9a.m61,2be 1e9b.s1e61 1e9c.v 1e9e.sdf 1e9f.v 1ea0.p 1f00.v 1f08.s1f00 1f10.v 1f16.x
1f18.s1f10 1f1e.x 1f20.v 1f28.s1f20 1f30.v 1f38.s1f30 1f40.v 1f46.x 1f48.s1f40 1f4e.x 1f50.v
1f58.x 1f59.s1f51 1f5a.x 1f5b.s1f53 1f5c.x 1f5d.s1f55 1f5e.x 1f5f.s1f57 1f60.v 1f68.s1f60 1f70.v
1f71.s3ac 1f72.v 1f73.s3ad 1f74.v 1f75.s3ae 1f76.v 1f77.s3af 1f78.v 1f79.s3cc 1f7a.v 1f7b.s3cd
1f7c.v 1f7d.s3ce 1f7e.x 1f80.m1f00,3b9 1f81.m1f01,3b9 1f82.m1f02,3b9 1f83.m1f03,3b9 1f84.m1f04,3b9
1f85.m1f05,3b9 1f86.m1f06,3b9 1f87.m1f07,3b9 1f88.m1f00,3b9 1f89.m1f01,3b9 1f8a.m1f02,3b9
1f8b.m1f03,3b9 1f8c.m1f04,3b9 1f8d.m1f05,3b9 1f8e.m1f06,3b9 1f8f.m1f07,3b9 1f90.m1f20,3b9
1f91.m1f21,3b9 1f92.m1f22,3b9 1f93.m1f23,3b9 1f94.m1f24,3b9 1f95.m1f25,3b9 1f96.m1f26,3b9
1f97.m1f27,3b9 1f98.m1f20,3b9 1f99.m1f21,3b9 1f9a.m1f22,3b9 1f9b.m1f23,3b9 1f9c.m1f24,3b9
1f9d.m1f25,3b9 1f9e.m1f26,3b9 1f9f.m1f27,3b9 1fa0.m1f60,3b9 1fa1.m1f61,3b9 1fa2.m1f62,3b9
1fa3.m1f63,3b9 1fa4.m1f64,3b9 1fa5.m1f65,3b9 1fa6.m1f66,3b9 1fa7.m1f67,3b9 1fa8.m1f60,3b9
1fa9.m1f61,3b9 1faa.m1f62,3b9 1fab.m1f63,3b9 1fac.m1f64,3b9 1fad.m1f65,3b9 1fae.m1f66,3b9
1faf.m1f67,3b9 1fb0.v 1fb2.m1f70,3b9 1fb3.m3b1,3b9 1fb4.m3ac,3b9 1fb5.x 1fb6.v 1fb7.m1fb6,3b9
1fb8.s1fb0 1fba.s1f70 1fbb.s3ac 1fbc.m3b1,3b9 1fbd.m20,313 1fbe.s3b9 1fbf.m20,313 1fc0.m20,342
1fc1.m20,308,342 1fc2.m1f74,3b9 1fc3.m3b7,3b9 1fc4.m3ae,3b9 1fc5.x 1fc6.v 1fc7.m1fc6,3b9
1fc8.s1f72 1fc9.s3ad 1fca.s1f74 1fcb.s3ae 1fcc.m3b7,3b9 1fcd.m20,313,300 1fce.m20,313,301
1fcf.m20,313,342 1fd0.v 1fd3.s390 1fd4.x 1fd6.v 1fd8.s1fd0 1fda.s1f76 1fdb.s3af 1fdc.x
1fdd.m20,314,300 1fde.m20,314,301 1fdf.m20,314,342 1fe0.v 1fe3.s3b0 1fe4.v 1fe8.s1fe0 1fea.s1f7a
1feb.s3cd 1fec.s1fe5 1fed.m20,308,300 1fee.m20,308,301 1fef.s60 1ff0.x 1ff2.m1f7c,3b9
1ff3.m3c9,3b9 1ff4.m3ce,3b9 1ff5.x 1ff6.v 1ff7.m1ff6,3b9 1ff8.s1f78 1ff9.s3cc 1ffa.s1f7c 1ffb.s3ce
1ffc.m3c9,3b9 1ffd.m20,301 1ffe.m20,314 1fff.x 2000.m20 200b.m 200c.v 200e.x 2010.v 2011.s2010
2012.v 2017.m20,333 2018.v 2024.x 2027.v 2028.x 202f.s20 2030.v 2033.m2032,2032
2034.m2032,2032,2032 2035.v 2036.m2035,2035 2037.m2035,2035,2035 2038.v 203c.m21,21 203d.v
203e.m20,305 203f.v 2047.m3f,3f 2048.m3f,21 2049.m21,3f 204a.v 2057.m2032,2032,2032,2032 2058.v
205f.s20 2060.m 2065.x 206a.m 2070.s30 2071.s69 2072.x 2074.s34 207a.s2b 207b.s2212 207c.s3d
207d.s28 207f.s6e 2080.s30 208a.s2b 208b.s2212 208c.s3d 208d.s28 208f.x 2090.s61 2091.s65 2092.s6f
2093.s78 2094.s259 2095.s68 2096.s6b 209a.s70 209b.s73 209d.x 20a0.v 20a8.m72,73 20a9.v 20c2.x
20d0.v 20f1.x 2100.m61,2f,63 2101.m61,2f,73 2102.s63 2103.mb0,63 2104.v 2105.m63,2f,6f
2106.m63,2f,75 2107.s25b 2108.v 2109.mb0,66 210a.s67 210c.m68 210f.s127 2110.m69 2112.m6c 2114.v
2115.s6e 2116.m6e,6f 2117.v 2119.s70 211c.m72 211e.v 2120.m73,6d 2121.m74,65,6c 2122.m74,6d 2123.v
2124.s7a 2125.v 2126.s3c9 2127.v 2128.s7a 2129.v 212a.s6b 212b.se5 212c.s62 212e.v 212f.m65
2131.s66 2132.s214e 2133.s6d 2134.s6f 2135.s5d0 2139.s69 213a.v 213b.m66,61,78 213c.s3c0 213d.m3b3
213f.s3c0 2140.s2211 2141.v 2145.m64 2147.s65 2148.s69 214a.v 2150.m31,2044,37 2151.m31,2044,39
2152.m31,2044,31,30 2153.m31,2044,33 2154.m32,2044,33 2155.m31,2044,35 2156.m32,2044,35
2157.m33,2044,35 2158.m34,2044,35 2159.m31,2044,36 215a.m35,2044,36 215b.m31,2044,38
215c.m33,2044,38 215d.m35,2044,38 215e.m37,2044,38 215f.m31,2044 2160.s69 2161.m69,69
2162.m69,69,69 2163.m69,76 2164.s76 2165.m76,69 2166.m76,69,69 2167.m76,69,69,69 2168.m69,78
2169.s78 216a.m78,69 216b.m78,69,69 216c.s6c 216d.s63 216f.s6d 2170.s69 2171.m69,69 2172.m69,69,69
2173.m69,76 2174.s76 2175.m76,69 2176.m76,69,69 2177.m76,69,69,69 2178.m69,78 2179.s78 217a.m78,69
217b.m78,69,69 217c.s6c 217d.s63 217f.s6d 2180.v 2183.p 2185.v 2189.m30,2044,33 218a.v 218c.x
2190.v 222c.m222b,222b 222d.m222b,222b,222b 222e.v 222f.m222e,222e 2230.m222e,222e,222e 2231.v
2329.s3008 232b.v 242a.x 2440.v 244b.x 2460.s31 2469.m31,30 246a.m31,31 246b.m31,32 246c.m31,33
246d.m31,34 246e.m31,35 246f.m31,36 2470.m31,37 2471.m31,38 2472.m31,39 2473.m32,30 2474.m28,31,29
2475.m28,32,29 2476.m28,33,29 2477.m28,34,29 2478.m28,35,29 2479.m28,36,29 247a.m28,37,29
247b.m28,38,29 247c.m28,39,29 247d.m28,31,30,29 247e.m28,31,31,29 247f.m28,31,32,29
2480.m28,31,33,29 2481.m28,31,34,29 2482.m28,31,35,29 2483.m28,31,36,29 2484.m28,31,37,29
2485.m28,31,38,29 2486.m28,31,39,29 2487.m28,32,30,29 2488.x 249c.m28,61,29 249d.m28,62,29
249e.m28,63,29 249f.m28,64,29 24a0.m28,65,29 24a1.m28,66,29 24a2.m28,67,29 24a3.m28,68,29
24a4.m28,69,29 24a5.m28,6a,29 24a6.m28,6b,29 24a7.m28,6c,29 24a8.m28,6d,29 24a9.m28,6e,29
24aa.m28,6f,29 24ab.m28,70,29 24ac.m28,71,29 24ad.m28,72,29 24ae.m28,73,29 24af.m28,74,29
24b0.m28,75,29 24b1.m28,76,29 24b2.m28,77,29 24b3.m28,78,29 24b4.m28,79,29 24b5.m28,7a,29 24b6.s61
24d0.s61 24ea.s30 24eb.v 2a0c.m222b,222b,222b,222b 2a0d.v 2a74.m3a,3a,3d 2a75.m3d,3d
2a76.m3d,3d,3d 2a77.v 2adc.m2add,338 2add.v 2b74.x 2b76.v 2c00.s2c30 2c30.v 2c60.p 2c62.s26b
2c63.s1d7d 2c64.s27d 2c65.v 2c67.p 2c6d.s251 2c6e.s271 2c6f.s250 2c70.s252 2c71.v 2c72.p 2c74.v
2c75.p 2c77.v 2c7c.s6a 2c7d.s76 2c7e.s23f 2c80.p 2ce4.v 2ceb.p 2cef.v 2cf2.p 2cf4.x 2cf9.v 2d26.x
2d27.v 2d28.x 2d2d.v 2d2e.x 2d30.v 2d68.x 2d6f.s2d61 2d70.v 2d71.x 2d7f.v 2d97.x 2da0.v 2da7.x
2da8.v 2daf.x 2db0.v 2db7.x 2db8.v 2dbf.x 2dc0.v 2dc7.x 2dc8.v 2dcf.x 2dd0.v 2dd7.x 2dd8.v 2ddf.x
2de0.v 2e5e.x 2e80.v 2e9a.x 2e9b.v 2e9f.s6bcd 2ea0.v 2ef3.s9f9f 2ef4.x 2f00.s4e00 2f01.s4e28
2f02.s4e36 2f03.s4e3f 2f04.s4e59 2f05.s4e85 2f06.s4e8c 2f07.s4ea0 2f08.s4eba 2f09.s513f 2f0a.s5165
2f0b.s516b 2f0c.s5182 2f0d.s5196 2f0e.s51ab 2f0f.s51e0 2f10.s51f5 2f11.s5200 2f12.s529b 2f13.s52f9
2f14.s5315 2f15.s531a 2f16.s5338 2f17.s5341 2f18.s535c 2f19.s5369 2f1a.s5382 2f1b.s53b6 2f1c.s53c8
2f1d.s53e3 2f1e.s56d7 2f1f.s571f 2f20.s58eb 2f21.s5902 2f22.s590a 2f23.s5915 2f24.s5927 2f25.s5973
2f26.s5b50 2f27.s5b80 2f28.s5bf8 2f29.s5c0f 2f2a.s5c22 2f2b.s5c38 2f2c.s5c6e 2f2d.s5c71 2f2e.s5ddb
2f2f.s5de5 2f30.s5df1 2f31.s5dfe 2f32.s5e72 2f33.s5e7a 2f34.s5e7f 2f35.s5ef4 2f36.s5efe 2f37.s5f0b
2f38.s5f13 2f39.s5f50 2f3a.s5f61 2f3b.s5f73 2f3c.s5fc3 2f3d.s6208 2f3e.s6236 2f3f.s624b 2f40.s652f
2f41.s6534 2f42.s6587 2f43.s6597 2f44.s65a4 2f45.s65b9 2f46.s65e0 2f47.s65e5 2f48.s66f0 2f49.s6708
2f4a.s6728 2f4b.s6b20 2f4c.s6b62 2f4d.s6b79 2f4e.s6bb3 2f4f.s6bcb 2f50.s6bd4 2f51.s6bdb 2f52.s6c0f
2f53.s6c14 2f54.s6c34 2f55.s706b 2f56.s722a 2f57.s7236 2f58.s723b 2f59.s723f 2f5a.s7247 2f5b.s7259
2f5c.s725b 2f5d.s72ac 2f5e.s7384 2f5f.s7389 2f60.s74dc 2f61.s74e6 2f62.s7518 2f63.s751f 2f64.s7528
2f65.s7530 2f66.s758b 2f67.s7592 2f68.s7676 2f69.s767d 2f6a.s76ae 2f6b.s76bf 2f6c.s76ee 2f6d.s77db
2f6e.s77e2 2f6f.s77f3 2f70.s793a 2f71.s79b8 2f72.s79be 2f73.s7a74 2f74.s7acb 2f75.s7af9 2f76.s7c73
2f77.s7cf8 2f78.s7f36 2f79.s7f51 2f7a.s7f8a 2f7b.s7fbd 2f7c.s8001 2f7d.s800c 2f7e.s8012 2f7f.s8033
2f80.s807f 2f81.s8089 2f82.s81e3 2f83.s81ea 2f84.s81f3 2f85.s81fc 2f86.s820c 2f87.s821b 2f88.s821f
2f89.s826e 2f8a.s8272 2f8b.s8278 2f8c.s864d 2f8d.s866b 2f8e.s8840 2f8f.s884c 2f90.s8863 2f91.s897e
2f92.s898b 2f93.s89d2 2f94.s8a00 2f95.s8c37 2f96.s8c46 2f97.s8c55 2f98.s8c78 2f99.s8c9d 2f9a.s8d64
2f9b.s8d70 2f9c.s8db3 2f9d.s8eab 2f9e.s8eca 2f9f.s8f9b 2fa0.s8fb0 2fa1.s8fb5 2fa2.s9091 2fa3.s9149
2fa4.s91c6 2fa5.s91cc 2fa6.s91d1 2fa7.s9577 2fa8.s9580 2fa9.s961c 2faa.s96b6 2fab.s96b9 2fac.s96e8
2fad.s9751 2fae.s975e 2faf.s9762 2fb0.s9769 2fb1.s97cb 2fb2.s97ed 2fb3.s97f3 2fb4.s9801 2fb5.s98a8
2fb6.s98db 2fb7.s98df 2fb8.s9996 2fb9.s9999 2fba.s99ac 2fbb.s9aa8 2fbc.s9ad8 2fbd.s9adf 2fbe.s9b25
2fbf.s9b2f 2fc0.s9b32 2fc1.s9b3c 2fc2.s9b5a 2fc3.s9ce5 2fc4.s9e75 2fc5.s9e7f 2fc6.s9ea5 2fc7.s9ebb
2fc8.s9ec3 2fc9.s9ecd 2fca.s9ed1 2fcb.s9ef9 2fcc.s9efd 2fcd.s9f0e 2fce.s9f13 2fcf.s9f20 2fd0.s9f3b
2fd1.s9f4a 2fd2.s9f52 2fd3.s9f8d 2fd4.s9f9c 2fd5.s9fa0 2fd6.x 3000.s20 3001.v 3002.s2e 3003.v
3036.s3012 3037.v 3038.s5341 3039.s5344 303b.v 3040.x 3041.v 3097.x 3099.v 309b.m20,3099
309c.m20,309a 309d.v 309f.m3088,308a 30a0.v 30ff.m30b3,30c8 3100.x 3105.v 3130.x 3131.s1100
3133.s11aa 3134.s1102 3135.s11ac 3137.s1103 313a.s11b0 3140.s111a 3141.s1106 3144.s1121 3145.s1109
314f.s1161 3164.m 3165.s1114 3167.s11c7 3169.s11cc 316a.s11ce 316b.s11d3 316c.s11d7 316d.s11d9
316e.s111c 316f.s11dd 3170.s11df 3171.s111d 3173.s1120 3174.s1122 3176.s1127 3177.s1129 3178.s112b
317d.s1132 317e.s1136 317f.s1140 3180.s1147 3181.s114c 3182.s11f1 3184.s1157 3187.s1184 3189.s1188
318a.s1191 318c.s1194 318d.s119e 318e.s11a1 318f.x 3190.v 3192.s4e00 3193.s4e8c 3194.s4e09
3195.s56db 3196.s4e0a 3197.s4e2d 3198.s4e0b 3199.s7532 319a.s4e59 319b.s4e19 319c.s4e01 319d.s5929
319e.s5730 319f.s4eba 31a0.v 31e6.x 31f0.v 3200.m28,1100,29 3201.m28,1102,29 3202.m28,1103,29
3203.m28,1105,29 3204.m28,1106,29 3205.m28,1107,29 3206.m28,1109,29 3207.m28,110b,29
3208.m28,110c,29 3209.m28,110e,29 320a.m28,110f,29 320b.m28,1110,29 320c.m28,1111,29
320d.m28,1112,29 320e.m28,ac00,29 320f.m28,b098,29 3210.m28,b2e4,29 3211.m28,b77c,29
3212.m28,b9c8,29 3213.m28,bc14,29 3214.m28,c0ac,29 3215.m28,c544,29 3216.m28,c790,29
3217.m28,cc28,29 3218.m28,ce74,29 3219.m28,d0c0,29 321a.m28,d30c,29 321b.m28,d558,29
321c.m28,c8fc,29 321d.m28,c624,c804,29 321e.m28,c624,d6c4,29 321f.x 3220.m28,4e00,29
3221.m28,4e8c,29 3222.m28,4e09,29 3223.m28,56db,29 3224.m28,4e94,29 3225.m28,516d,29
3226.m28,4e03,29 3227.m28,516b,29 3228.m28,4e5d,29 3229.m28,5341,29 322a.m28,6708,29
322b.m28,706b,29 322c.m28,6c34,29 322d.m28,6728,29 322e.m28,91d1,29 322f.m28,571f,29
3230.m28,65e5,29 3231.m28,682a,29 3232.m28,6709,29 3233.m28,793e,29 3234.m28,540d,29
3235.m28,7279,29 3236.m28,8ca1,29 3237.m28,795d,29 3238.m28,52b4,29 3239.m28,4ee3,29
323a.m28,547c,29 323b.m28,5b66,29 323c.m28,76e3,29 323d.m28,4f01,29 323e.m28,8cc7,29
323f.m28,5354,29 3240.m28,796d,29 3241.m28,4f11,29 3242.m28,81ea,29 3243.m28,81f3,29 3244.s554f
3245.s5e7c 3246.s6587 3247.s7b8f 3248.v 3250.m70,74,65 3251.m32,31 3252.m32,32 3253.m32,33
3254.m32,34 3255.m32,35 3256.m32,36 3257.m32,37 3258.m32,38 3259.m32,39 325a.m33,30 325b.m33,31
325c.m33,32 325d.m33,33 325e.m33,34 325f.m33,35 3260.s1100 3261.s1102 3263.s1105 3266.s1109
3267.s110b 3269.s110e 326e.sac00 326f.sb098 3270.sb2e4 3271.sb77c 3272.sb9c8 3273.sbc14 3274.sc0ac
3275.sc544 3276.sc790 3277.scc28 3278.sce74 3279.sd0c0 327a.sd30c 327b.sd558 327c.mcc38,ace0
327d.mc8fc,c758 327e.sc6b0 327f.v 3280.s4e00 3281.s4e8c 3282.s4e09 3283.s56db 3284.s4e94
3285.s516d 3286.s4e03 3287.s516b 3288.s4e5d 3289.s5341 328a.s6708 328b.s706b 328c.s6c34 328d.s6728
328e.s91d1 328f.s571f 3290.s65e5 3291.s682a 3292.s6709 3293.s793e 3294.s540d 3295.s7279 3296.s8ca1
3297.s795d 3298.s52b4 3299.s79d8 329a.s7537 329b.s5973 329c.s9069 329d.s512a 329e.s5370 329f.s6ce8
32a0.s9805 32a1.s4f11 32a2.s5199 32a3.s6b63 32a4.s4e0a 32a5.s4e2d 32a6.s4e0b 32a7.s5de6 32a8.s53f3
32a9.s533b 32aa.s5b97 32ab.s5b66 32ac.s76e3 32ad.s4f01 32ae.s8cc7 32af.s5354 32b0.s591c
32b1.m33,36 32b2.m33,37 32b3.m33,38 32b4.m33,39 32b5.m34,30 32b6.m34,31 32b7.m34,32 32b8.m34,33
32b9.m34,34 32ba.m34,35 32bb.m34,36 32bc.m34,37 32bd.m34,38 32be.m34,39 32bf.m35,30 32c0.m31,6708
32c1.m32,6708 32c2.m33,6708 32c3.m34,6708 32c4.m35,6708 32c5.m36,6708 32c6.m37,6708 32c7.m38,6708
32c8.m39,6708 32c9.m31,30,6708 32ca.m31,31,6708 32cb.m31,32,6708 32cc.m68,67 32cd.m65,72,67
32ce.m65,76 32cf.m6c,74,64 32d0.s30a2 32d1.s30a4 32d2.s30a6 32d3.s30a8 32d4.s30aa 32d6.s30ad
32d7.s30af 32d8.s30b1 32d9.s30b3 32da.s30b5 32db.s30b7 32dc.s30b9 32dd.s30bb 32de.s30bd 32df.s30bf
32e0.s30c1 32e1.s30c4 32e2.s30c6 32e3.s30c8 32e4.s30ca 32ea.s30d2 32eb.s30d5 32ec.s30d8 32ed.s30db
32ee.s30de 32f3.s30e4 32f4.s30e6 32f5.s30e8 32fb.s30ef 32ff.m4ee4,548c 3300.m30a2,30d1,30fc,30c8
3301.m30a2,30eb,30d5,30a1 3302.m30a2,30f3,30da,30a2 3303.m30a2,30fc,30eb 3304.m30a4,30cb,30f3,30b0
3305.m30a4,30f3,30c1 3306.m30a6,30a9,30f3 3307.m30a8,30b9,30af,30fc,30c9 3308.m30a8,30fc,30ab,30fc
3309.m30aa,30f3,30b9 330a.m30aa,30fc,30e0 330b.m30ab,30a4,30ea 330c.m30ab,30e9,30c3,30c8
330d.m30ab,30ed,30ea,30fc 330e.m30ac,30ed,30f3 330f.m30ac,30f3,30de 3310.m30ae,30ac
3311.m30ae,30cb,30fc 3312.m30ad,30e5,30ea,30fc 3313.m30ae,30eb,30c0,30fc 3314.m30ad,30ed
3315.m30ad,30ed,30b0,30e9,30e0 3316.m30ad,30ed,30e1,30fc,30c8,30eb 3317.m30ad,30ed,30ef,30c3,30c8
3318.m30b0,30e9,30e0 3319.m30b0,30e9,30e0,30c8,30f3 331a.m30af,30eb,30bc,30a4,30ed
331b.m30af,30ed,30fc,30cd 331c.m30b1,30fc,30b9 331d.m30b3,30eb,30ca 331e.m30b3,30fc,30dd
331f.m30b5,30a4,30af,30eb 3320.m30b5,30f3,30c1,30fc,30e0 3321.m30b7,30ea,30f3,30b0
3322.m30bb,30f3,30c1 3323.m30bb,30f3,30c8 3324.m30c0,30fc,30b9 3325.m30c7,30b7 3326.m30c9,30eb
3327.m30c8,30f3 3328.m30ca,30ce 3329.m30ce,30c3,30c8 332a.m30cf,30a4,30c4
332b.m30d1,30fc,30bb,30f3,30c8 332c.m30d1,30fc,30c4 332d.m30d0,30fc,30ec,30eb
332e.m30d4,30a2,30b9,30c8,30eb 332f.m30d4,30af,30eb 3330.m30d4,30b3 3331.m30d3,30eb
3332.m30d5,30a1,30e9,30c3,30c9 3333.m30d5,30a3,30fc,30c8 3334.m30d6,30c3,30b7,30a7,30eb
3335.m30d5,30e9,30f3 3336.m30d8,30af,30bf,30fc,30eb 3337.m30da,30bd 3338.m30da,30cb,30d2
3339.m30d8,30eb,30c4 333a.m30da,30f3,30b9 333b.m30da,30fc,30b8 333c.m30d9,30fc,30bf
333d.m30dd,30a4,30f3,30c8 333e.m30dc,30eb,30c8 333f.m30db,30f3 3340.m30dd,30f3,30c9
3341.m30db,30fc,30eb 3342.m30db,30fc,30f3 3343.m30de,30a4,30af,30ed 3344.m30de,30a4,30eb
3345.m30de,30c3,30cf 3346.m30de,30eb,30af 3347.m30de,30f3,30b7,30e7,30f3 3348.m30df,30af,30ed,30f3
3349.m30df,30ea 334a.m30df,30ea,30d0,30fc,30eb 334b.m30e1,30ac 334c.m30e1,30ac,30c8,30f3
334d.m30e1,30fc,30c8,30eb 334e.m30e4,30fc,30c9 334f.m30e4,30fc,30eb 3350.m30e6,30a2,30f3
3351.m30ea,30c3,30c8,30eb 3352.m30ea,30e9 3353.m30eb,30d4,30fc 3354.m30eb,30fc,30d6,30eb
3355.m30ec,30e0 3356.m30ec,30f3,30c8,30b2,30f3 3357.m30ef,30c3,30c8 3358.m30,70b9 3359.m31,70b9
335a.m32,70b9 335b.m33,70b9 335c.m34,70b9 335d.m35,70b9 335e.m36,70b9 335f.m37,70b9 3360.m38,70b9
3361.m39,70b9 3362.m31,30,70b9 3363.m31,31,70b9 3364.m31,32,70b9 3365.m31,33,70b9 3366.m31,34,70b9
3367.m31,35,70b9 3368.m31,36,70b9 3369.m31,37,70b9 336a.m31,38,70b9 336b.m31,39,70b9
336c.m32,30,70b9 336d.m32,31,70b9 336e.m32,32,70b9 336f.m32,33,70b9 3370.m32,34,70b9
3371.m68,70,61 3372.m64,61 3373.m61,75 3374.m62,61,72 3375.m6f,76 3376.m70,63 3377.m64,6d
3378.m64,6d,32 3379.m64,6d,33 337a.m69,75 337b.m5e73,6210 337c.m662d,548c 337d.m5927,6b63
337e.m660e,6cbb 337f.m682a,5f0f,4f1a,793e 3380.m70,61 3381.m6e,61 3382.m3bc,61 3383.m6d,61
3384.m6b,61 3385.m6b,62 3386.m6d,62 3387.m67,62 3388.m63,61,6c 3389.m6b,63,61,6c 338a.m70,66
338b.m6e,66 338c.m3bc,66 338d.m3bc,67 338e.m6d,67 338f.m6b,67 3390.m68,7a 3391.m6b,68,7a
3392.m6d,68,7a 3393.m67,68,7a 3394.m74,68,7a 3395.m3bc,6c 3396.m6d,6c 3397.m64,6c 3398.m6b,6c
3399.m66,6d 339a.m6e,6d 339b.m3bc,6d 339c.m6d,6d 339d.m63,6d 339e.m6b,6d 339f.m6d,6d,32
33a0.m63,6d,32 33a1.m6d,32 33a2.m6b,6d,32 33a3.m6d,6d,33 33a4.m63,6d,33 33a5.m6d,33 33a6.m6b,6d,33
33a7.m6d,2215,73 33a8.m6d,2215,73,32 33a9.m70,61 33aa.m6b,70,61 33ab.m6d,70,61 33ac.m67,70,61
33ad.m72,61,64 33ae.m72,61,64,2215,73 33af.m72,61,64,2215,73,32 33b0.m70,73 33b1.m6e,73
33b2.m3bc,73 33b3.m6d,73 33b4.m70,76 33b5.m6e,76 33b6.m3bc,76 33b7.m6d,76 33b8.m6b,76 33b9.m6d,76
33ba.m70,77 33bb.m6e,77 33bc.m3bc,77 33bd.m6d,77 33be.m6b,77 33bf.m6d,77 33c0.m6b,3c9 33c1.m6d,3c9
33c2.x 33c3.m62,71 33c4.m63,63 33c5.m63,64 33c6.m63,2215,6b,67 33c7.x 33c8.m64,62 33c9.m67,79
33ca.m68,61 33cb.m68,70 33cc.m69,6e 33cd.m6b,6b 33ce.m6b,6d 33cf.m6b,74 33d0.m6c,6d 33d1.m6c,6e
33d2.m6c,6f,67 33d3.m6c,78 33d4.m6d,62 33d5.m6d,69,6c 33d6.m6d,6f,6c 33d7.m70,68 33d8.x
33d9.m70,70,6d 33da.m70,72 33db.m73,72 33dc.m73,76 33dd.m77,62 33de.m76,2215,6d 33df.m61,2215,6d
33e0.m31,65e5 33e1.m32,65e5 33e2.m33,65e5 33e3.m34,65e5 33e4.m35,65e5 33e5.m36,65e5 33e6.m37,65e5
33e7.m38,65e5 33e8.m39,65e5 33e9.m31,30,65e5 33ea.m31,31,65e5 33eb.m31,32,65e5 33ec.m31,33,65e5
33ed.m31,34,65e5 33ee.m31,35,65e5 33ef.m31,36,65e5 33f0.m31,37,65e5 33f1.m31,38,65e5
33f2.m31,39,65e5 33f3.m32,30,65e5 33f4.m32,31,65e5 33f5.m32,32,65e5 33f6.m32,33,65e5
33f7.m32,34,65e5 33f8.m32,35,65e5 33f9.m32,36,65e5 33fa.m32,37,65e5 33fb.m32,38,65e5
33fc.m32,39,65e5 33fd.m33,30,65e5 33fe.m33,31,65e5 33ff.m67,61,6c 3400.v a48d.x a490.v a4c7.x
a4d0.v a62c.x a640.p a66e.v a680.p a69c.s44a a69d.s44c a69e.v a6f8.x a700.v a722.p a730.v a732.p
a770.sa76f a771.v a779.p a77d.s1d79 a77e.p a788.v a78b.p a78d.s265 a78e.v a790.p a794.v a796.p
a7aa.s266 a7ab.s25c a7ac.s261 a7ad.s26c a7ae.s26a a7af.v a7b0.s29e a7b1.s287 a7b2.s29d a7b3.sab53
a7b4.p a7c4.sa794 a7c5.s282 a7c6.s1d8e a7c7.p a7cb.s264 a7cc.p a7dc.s19b a7dd.x a7f1.s73 a7f2.s63
a7f3.s66 a7f4.s71 a7f5.p a7f7.v a7f8.s127 a7f9.s153 a7fa.v a82d.x a830.v a83a.x a840.v a878.x
a880.v a8c6.x a8ce.v a8da.x a8e0.v a954.x a95f.v a97d.x a980.v a9ce.x a9cf.v a9da.x a9de.v a9ff.x
aa00.v aa37.x aa40.v aa4e.x aa50.v aa5a.x aa5c.v aac3.x aadb.v aaf7.x ab01.v ab07.x ab09.v ab0f.x
ab11.v ab17.x ab20.v ab27.x ab28.v ab2f.x ab30.v ab5c.sa727 ab5d.sab37 ab5e.s26b ab5f.sab52 ab60.v
ab69.s28d ab6a.v ab6c.x ab70.s13a0 abc0.v abee.x abf0.v abfa.x ac00.v d7a4.x d7b0.v d7c7.x d7cb.v
d7fc.x f900.s8c48 f901.s66f4 f902.s8eca f903.s8cc8 f904.s6ed1 f905.s4e32 f906.s53e5 f907.m9f9c
f909.s5951 f90a.s91d1 f90b.s5587 f90c.s5948 f90d.s61f6 f90e.s7669 f90f.s7f85 f910.s863f f911.s87ba
f912.s88f8 f913.s908f f914.s6a02 f915.s6d1b f916.s70d9 f917.s73de f918.s843d f919.s916a f91a.s99f1
f91b.s4e82 f91c.s5375 f91d.s6b04 f91e.s721b f91f.s862d f920.s9e1e f921.s5d50 f922.s6feb f923.s85cd
f924.s8964 f925.s62c9 f926.s81d8 f927.s881f f928.s5eca f929.s6717 f92a.s6d6a f92b.s72fc f92c.s90ce
f92d.s4f86 f92e.s51b7 f92f.s52de f930.s64c4 f931.s6ad3 f932.s7210 f933.s76e7 f934.s8001 f935.s8606
f936.s865c f937.s8def f938.s9732 f939.s9b6f f93a.s9dfa f93b.s788c f93c.s797f f93d.s7da0 f93e.s83c9
f93f.s9304 f940.s9e7f f941.s8ad6 f942.s58df f943.s5f04 f944.s7c60 f945.s807e f946.s7262 f947.s78ca
f948.s8cc2 f949.s96f7 f94a.s58d8 f94b.s5c62 f94c.s6a13 f94d.s6dda f94e.s6f0f f94f.s7d2f f950.s7e37
f951.s964b f952.s52d2 f953.s808b f954.s51dc f955.s51cc f956.s7a1c f957.s7dbe f958.s83f1 f959.s9675
f95a.s8b80 f95b.s62cf f95c.s6a02 f95d.s8afe f95e.s4e39 f95f.s5be7 f960.s6012 f961.s7387 f962.s7570
f963.s5317 f964.s78fb f965.s4fbf f966.s5fa9 f967.s4e0d f968.s6ccc f969.s6578 f96a.s7d22 f96b.s53c3
f96c.s585e f96d.s7701 f96e.s8449 f96f.s8aaa f970.s6bba f971.s8fb0 f972.s6c88 f973.s62fe f974.s82e5
f975.s63a0 f976.s7565 f977.s4eae f978.s5169 f979.s51c9 f97a.s6881 f97b.s7ce7 f97c.s826f f97d.s8ad2
f97e.s91cf f97f.s52f5 f980.s5442 f981.s5973 f982.s5eec f983.s65c5 f984.s6ffe f985.s792a f986.s95ad
f987.s9a6a f988.s9e97 f989.s9ece f98a.s529b f98b.s66c6 f98c.s6b77 f98d.s8f62 f98e.s5e74 f98f.s6190
f990.s6200 f991.s649a f992.s6f23 f993.s7149 f994.s7489 f995.s79ca f996.s7df4 f997.s806f f998.s8f26
f999.s84ee f99a.s9023 f99b.s934a f99c.s5217 f99d.s52a3 f99e.s54bd f99f.s70c8 f9a0.s88c2 f9a1.s8aaa
f9a2.s5ec9 f9a3.s5ff5 f9a4.s637b f9a5.s6bae f9a6.s7c3e f9a7.s7375 f9a8.s4ee4 f9a9.s56f9 f9aa.s5be7
f9ab.s5dba f9ac.s601c f9ad.s73b2 f9ae.s7469 f9af.s7f9a f9b0.s8046 f9b1.s9234 f9b2.s96f6 f9b3.s9748
f9b4.s9818 f9b5.s4f8b f9b6.s79ae f9b7.s91b4 f9b8.s96b8 f9b9.s60e1 f9ba.s4e86 f9bb.s50da f9bc.s5bee
f9bd.s5c3f f9be.s6599 f9bf.s6a02 f9c0.s71ce f9c1.s7642 f9c2.s84fc f9c3.s907c f9c4.s9f8d f9c5.s6688
f9c6.s962e f9c7.s5289 f9c8.s677b f9c9.s67f3 f9ca.s6d41 f9cb.s6e9c f9cc.s7409 f9cd.s7559 f9ce.s786b
f9cf.s7d10 f9d0.s985e f9d1.s516d f9d2.s622e f9d3.s9678 f9d4.s502b f9d5.s5d19 f9d6.s6dea f9d7.s8f2a
f9d8.s5f8b f9d9.s6144 f9da.s6817 f9db.s7387 f9dc.s9686 f9dd.s5229 f9de.s540f f9df.s5c65 f9e0.s6613
f9e1.s674e f9e2.s68a8 f9e3.s6ce5 f9e4.s7406 f9e5.s75e2 f9e6.s7f79 f9e7.s88cf f9e8.s88e1 f9e9.s91cc
f9ea.s96e2 f9eb.s533f f9ec.s6eba f9ed.s541d f9ee.s71d0 f9ef.s7498 f9f0.s85fa f9f1.s96a3 f9f2.s9c57
f9f3.s9e9f f9f4.s6797 f9f5.s6dcb f9f6.s81e8 f9f7.s7acb f9f8.s7b20 f9f9.s7c92 f9fa.s72c0 f9fb.s7099
f9fc.s8b58 f9fd.s4ec0 f9fe.s8336 f9ff.s523a fa00.s5207 fa01.s5ea6 fa02.s62d3 fa03.s7cd6 fa04.s5b85
fa05.s6d1e fa06.s66b4 fa07.s8f3b fa08.s884c fa09.s964d fa0a.s898b fa0b.s5ed3 fa0c.s5140 fa0d.s55c0
fa0e.v fa10.s585a fa11.v fa12.s6674 fa13.v fa15.s51de fa16.s732a fa17.s76ca fa18.s793c fa19.s795e
fa1a.s7965 fa1b.s798f fa1c.s9756 fa1d.s7cbe fa1e.s7fbd fa1f.v fa20.s8612 fa21.v fa22.s8af8 fa23.v
fa25.s9038 fa26.s90fd fa27.v fa2a.s98ef fa2b.s98fc fa2c.s9928 fa2d.s9db4 fa2e.s90de fa2f.s96b7
fa30.s4fae fa31.s50e7 fa32.s514d fa33.s52c9 fa34.s52e4 fa35.s5351 fa36.s559d fa37.s5606 fa38.s5668
fa39.s5840 fa3a.s58a8 fa3b.s5c64 fa3c.s5c6e fa3d.s6094 fa3e.s6168 fa3f.s618e fa40.s61f2 fa41.s654f
fa42.s65e2 fa43.s6691 fa44.s6885 fa45.s6d77 fa46.s6e1a fa47.s6f22 fa48.s716e fa49.s722b fa4a.s7422
fa4b.s7891 fa4c.s793e fa4d.s7949 fa4e.s7948 fa4f.s7950 fa50.s7956 fa51.s795d fa52.s798d fa54.s7a40
fa55.s7a81 fa56.s7bc0 fa57.s7df4 fa58.s7e09 fa59.s7e41 fa5a.s7f72 fa5b.s8005 fa5c.s81ed fa5d.m8279
fa5f.s8457 fa60.s8910 fa61.s8996 fa62.s8b01 fa63.s8b39 fa64.s8cd3 fa65.s8d08 fa66.s8fb6 fa67.s9038
fa68.s96e3 fa69.s97ff fa6a.s983b fa6b.s6075 fa6c.s242ee fa6d.s8218 fa6e.x fa70.s4e26 fa71.s51b5
fa72.s5168 fa73.s4f80 fa74.s5145 fa75.s5180 fa76.s52c7 fa77.s52fa fa78.s559d fa79.s5555 fa7a.s5599
fa7b.s55e2 fa7c.s585a fa7d.s58b3 fa7e.s5944 fa7f.s5954 fa80.s5a62 fa81.s5b28 fa82.s5ed2 fa83.s5ed9
fa84.s5f69 fa85.s5fad fa86.s60d8 fa87.s614e fa88.s6108 fa89.s618e fa8a.s6160 fa8b.s61f2 fa8c.s6234
fa8d.s63c4 fa8e.s641c fa8f.s6452 fa90.s6556 fa91.s6674 fa92.s6717 fa93.s671b fa94.s6756 fa95.s6b79
fa96.s6bba fa97.s6d41 fa98.s6edb fa99.s6ecb fa9a.s6f22 fa9b.s701e fa9c.s716e fa9d.s77a7 fa9e.s7235
fa9f.s72af faa0.s732a faa1.s7471 faa2.s7506 faa3.s753b faa4.s761d faa5.s761f faa6.s76ca faa7.s76db
faa8.s76f4 faa9.s774a faaa.s7740 faab.s78cc faac.s7ab1 faad.s7bc0 faae.s7c7b faaf.s7d5b fab0.s7df4
fab1.s7f3e fab2.s8005 fab3.s8352 fab4.s83ef fab5.s8779 fab6.s8941 fab7.s8986 fab8.s8996 fab9.s8abf
faba.s8af8 fabb.s8acb fabc.s8b01 fabd.s8afe fabe.s8aed fabf.s8b39 fac0.s8b8a fac1.s8d08 fac2.s8f38
fac3.s9072 fac4.s9199 fac5.s9276 fac6.s967c fac7.s96e3 fac8.s9756 fac9.s97db faca.s97ff facb.s980b
facc.s983b facd.s9b12 face.s9f9c facf.s2284a fad0.s22844 fad1.s233d5 fad2.s3b9d fad3.s4018
fad4.s4039 fad5.s25249 fad6.s25cd0 fad7.s27ed3 fad8.s9f43 fad9.s9f8e fada.x fb00.m66,66
fb01.m66,69 fb02.m66,6c fb03.m66,66,69 fb04.m66,66,6c fb05.m73,74 fb07.x fb13.m574,576
fb14.m574,565 fb15.m574,56b fb16.m57e,576 fb17.m574,56d fb18.x fb1d.m5d9,5b4 fb1e.v fb1f.m5f2,5b7
fb20.s5e2 fb21.s5d0 fb22.s5d3 fb24.s5db fb27.s5e8 fb28.s5ea fb29.s2b fb2a.m5e9,5c1 fb2b.m5e9,5c2
fb2c.m5e9,5bc,5c1 fb2d.m5e9,5bc,5c2 fb2e.m5d0,5b7 fb2f.m5d0,5b8 fb30.m5d0,5bc fb31.m5d1,5bc
fb32.m5d2,5bc fb33.m5d3,5bc fb34.m5d4,5bc fb35.m5d5,5bc fb36.m5d6,5bc fb37.x fb38.m5d8,5bc
fb39.m5d9,5bc fb3a.m5da,5bc fb3b.m5db,5bc fb3c.m5dc,5bc fb3d.x fb3e.m5de,5bc fb3f.x fb40.m5e0,5bc
fb41.m5e1,5bc fb42.x fb43.m5e3,5bc fb44.m5e4,5bc fb45.x fb46.m5e6,5bc fb47.m5e7,5bc fb48.m5e8,5bc
fb49.m5e9,5bc fb4a.m5ea,5bc fb4b.m5d5,5b9 fb4c.m5d1,5bf fb4d.m5db,5bf fb4e.m5e4,5bf fb4f.m5d0,5dc
fb50.m671 fb52.m67b fb56.m67e fb5a.m680 fb5e.m67a fb62.m67f fb66.m679 fb6a.m6a4 fb6e.m6a6
fb72.m684 fb76.m683 fb7a.m686 fb7e.m687 fb82.m68d fb84.m68c fb86.m68e fb88.m688 fb8a.m698
fb8c.m691 fb8e.m6a9 fb92.m6af fb96.m6b3 fb9a.m6b1 fb9e.m6ba fba0.m6bb fba4.m6c0 fba6.m6c1
fbaa.m6be fbae.m6d2 fbb0.m6d3 fbb2.v fbd3.m6ad fbd7.m6c7 fbd9.m6c6 fbdb.m6c8 fbdd.m6c7,674
fbde.m6cb fbe0.m6c5 fbe2.m6c9 fbe4.m6d0 fbe8.m649 fbea.m626,627 fbec.m626,6d5 fbee.m626,648
fbf0.m626,6c7 fbf2.m626,6c6 fbf4.m626,6c8 fbf6.m626,6d0 fbf9.m626,649 fbfc.m6cc fc00.m626,62c
fc01.m626,62d fc02.m626,645 fc03.m626,649 fc04.m626,64a fc05.m628,62c fc06.m628,62d fc07.m628,62e
fc08.m628,645 fc09.m628,649 fc0a.m628,64a fc0b.m62a,62c fc0c.m62a,62d fc0d.m62a,62e fc0e.m62a,645
fc0f.m62a,649 fc10.m62a,64a fc11.m62b,62c fc12.m62b,645 fc13.m62b,649 fc14.m62b,64a fc15.m62c,62d
fc16.m62c,645 fc17.m62d,62c fc18.m62d,645 fc19.m62e,62c fc1a.m62e,62d fc1b.m62e,645 fc1c.m633,62c
fc1d.m633,62d fc1e.m633,62e fc1f.m633,645 fc20.m635,62d fc21.m635,645 fc22.m636,62c fc23.m636,62d
fc24.m636,62e fc25.m636,645 fc26.m637,62d fc27.m637,645 fc28.m638,645 fc29.m639,62c fc2a.m639,645
fc2b.m63a,62c fc2c.m63a,645 fc2d.m641,62c fc2e.m641,62d fc2f.m641,62e fc30.m641,645 fc31.m641,649
fc32.m641,64a fc33.m642,62d fc34.m642,645 fc35.m642,649 fc36.m642,64a fc37.m643,627 fc38.m643,62c
fc39.m643,62d fc3a.m643,62e fc3b.m643,644 fc3c.m643,645 fc3d.m643,649 fc3e.m643,64a fc3f.m644,62c
fc40.m644,62d fc41.m644,62e fc42.m644,645 fc43.m644,649 fc44.m644,64a fc45.m645,62c fc46.m645,62d
fc47.m645,62e fc48.m645,645 fc49.m645,649 fc4a.m645,64a fc4b.m646,62c fc4c.m646,62d fc4d.m646,62e
fc4e.m646,645 fc4f.m646,649 fc50.m646,64a fc51.m647,62c fc52.m647,645 fc53.m647,649 fc54.m647,64a
fc55.m64a,62c fc56.m64a,62d fc57.m64a,62e fc58.m64a,645 fc59.m64a,649 fc5a.m64a,64a fc5b.m630,670
fc5c.m631,670 fc5d.m649,670 fc5e.m20,64c,651 fc5f.m20,64d,651 fc60.m20,64e,651 fc61.m20,64f,651
fc62.m20,650,651 fc63.m20,651,670 fc64.m626,631 fc65.m626,632 fc66.m626,645 fc67.m626,646
fc68.m626,649 fc69.m626,64a fc6a.m628,631 fc6b.m628,632 fc6c.m628,645 fc6d.m628,646 fc6e.m628,649
fc6f.m628,64a fc70.m62a,631 fc71.m62a,632 fc72.m62a,645 fc73.m62a,646 fc74.m62a,649 fc75.m62a,64a
fc76.m62b,631 fc77.m62b,632 fc78.m62b,645 fc79.m62b,646 fc7a.m62b,649 fc7b.m62b,64a fc7c.m641,649
fc7d.m641,64a fc7e.m642,649 fc7f.m642,64a fc80.m643,627 fc81.m643,644 fc82.m643,645 fc83.m643,649
fc84.m643,64a fc85.m644,645 fc86.m644,649 fc87.m644,64a fc88.m645,627 fc89.m645,645 fc8a.m646,631
fc8b.m646,632 fc8c.m646,645 fc8d.m646,646 fc8e.m646,649 fc8f.m646,64a fc90.m649,670 fc91.m64a,631
fc92.m64a,632 fc93.m64a,645 fc94.m64a,646 fc95.m64a,649 fc96.m64a,64a fc97.m626,62c fc98.m626,62d
fc99.m626,62e fc9a.m626,645 fc9b.m626,647 fc9c.m628,62c fc9d.m628,62d fc9e.m628,62e fc9f.m628,645
fca0.m628,647 fca1.m62a,62c fca2.m62a,62d fca3.m62a,62e fca4.m62a,645 fca5.m62a,647 fca6.m62b,645
fca7.m62c,62d fca8.m62c,645 fca9.m62d,62c fcaa.m62d,645 fcab.m62e,62c fcac.m62e,645 fcad.m633,62c
fcae.m633,62d fcaf.m633,62e fcb0.m633,645 fcb1.m635,62d fcb2.m635,62e fcb3.m635,645 fcb4.m636,62c
fcb5.m636,62d fcb6.m636,62e fcb7.m636,645 fcb8.m637,62d fcb9.m638,645 fcba.m639,62c fcbb.m639,645
fcbc.m63a,62c fcbd.m63a,645 fcbe.m641,62c fcbf.m641,62d fcc0.m641,62e fcc1.m641,645 fcc2.m642,62d
fcc3.m642,645 fcc4.m643,62c fcc5.m643,62d fcc6.m643,62e fcc7.m643,644 fcc8.m643,645 fcc9.m644,62c
fcca.m644,62d fccb.m644,62e fccc.m644,645 fccd.m644,647 fcce.m645,62c fccf.m645,62d fcd0.m645,62e
fcd1.m645,645 fcd2.m646,62c fcd3.m646,62d fcd4.m646,62e fcd5.m646,645 fcd6.m646,647 fcd7.m647,62c
fcd8.m647,645 fcd9.m647,670 fcda.m64a,62c fcdb.m64a,62d fcdc.m64a,62e fcdd.m64a,645 fcde.m64a,647
fcdf.m626,645 fce0.m626,647 fce1.m628,645 fce2.m628,647 fce3.m62a,645 fce4.m62a,647 fce5.m62b,645
fce6.m62b,647 fce7.m633,645 fce8.m633,647 fce9.m634,645 fcea.m634,647 fceb.m643,644 fcec.m643,645
fced.m644,645 fcee.m646,645 fcef.m646,647 fcf0.m64a,645 fcf1.m64a,647 fcf2.m640,64e,651
fcf3.m640,64f,651 fcf4.m640,650,651 fcf5.m637,649 fcf6.m637,64a fcf7.m639,649 fcf8.m639,64a
fcf9.m63a,649 fcfa.m63a,64a fcfb.m633,649 fcfc.m633,64a fcfd.m634,649 fcfe.m634,64a fcff.m62d,649
fd00.m62d,64a fd01.m62c,649 fd02.m62c,64a fd03.m62e,649 fd04.m62e,64a fd05.m635,649 fd06.m635,64a
fd07.m636,649 fd08.m636,64a fd09.m634,62c fd0a.m634,62d fd0b.m634,62e fd0c.m634,645 fd0d.m634,631
fd0e.m633,631 fd0f.m635,631 fd10.m636,631 fd11.m637,649 fd12.m637,64a fd13.m639,649 fd14.m639,64a
fd15.m63a,649 fd16.m63a,64a fd17.m633,649 fd18.m633,64a fd19.m634,649 fd1a.m634,64a fd1b.m62d,649
fd1c.m62d,64a fd1d.m62c,649 fd1e.m62c,64a fd1f.m62e,649 fd20.m62e,64a fd21.m635,649 fd22.m635,64a
fd23.m636,649 fd24.m636,64a fd25.m634,62c fd26.m634,62d fd27.m634,62e fd28.m634,645 fd29.m634,631
fd2a.m633,631 fd2b.m635,631 fd2c.m636,631 fd2d.m634,62c fd2e.m634,62d fd2f.m634,62e fd30.m634,645
fd31.m633,647 fd32.m634,647 fd33.m637,645 fd34.m633,62c fd35.m633,62d fd36.m633,62e fd37.m634,62c
fd38.m634,62d fd39.m634,62e fd3a.m637,645 fd3b.m638,645 fd3c.m627,64b fd3e.v fd50.m62a,62c,645
fd51.m62a,62d,62c fd53.m62a,62d,645 fd54.m62a,62e,645 fd55.m62a,645,62c fd56.m62a,645,62d
fd57.m62a,645,62e fd58.m62c,645,62d fd5a.m62d,645,64a fd5b.m62d,645,649 fd5c.m633,62d,62c
fd5d.m633,62c,62d fd5e.m633,62c,649 fd5f.m633,645,62d fd61.m633,645,62c fd62.m633,645,645
fd64.m635,62d,62d fd66.m635,645,645 fd67.m634,62d,645 fd69.m634,62c,64a fd6a.m634,645,62e
fd6c.m634,645,645 fd6e.m636,62d,649 fd6f.m636,62e,645 fd71.m637,645,62d fd73.m637,645,645
fd74.m637,645,64a fd75.m639,62c,645 fd76.m639,645,645 fd78.m639,645,649 fd79.m63a,645,645
fd7a.m63a,645,64a fd7b.m63a,645,649 fd7c.m641,62e,645 fd7e.m642,645,62d fd7f.m642,645,645
fd80.m644,62d,645 fd81.m644,62d,64a fd82.m644,62d,649 fd83.m644,62c,62c fd85.m644,62e,645
fd87.m644,645,62d fd89.m645,62d,62c fd8a.m645,62d,645 fd8b.m645,62d,64a fd8c.m645,62c,62d
fd8d.m645,62c,645 fd8e.m645,62e,62c fd8f.m645,62e,645 fd90.v fd92.m645,62c,62e fd93.m647,645,62c
fd94.m647,645,645 fd95.m646,62d,645 fd96.m646,62d,649 fd97.m646,62c,645 fd99.m646,62c,649
fd9a.m646,645,64a fd9b.m646,645,649 fd9c.m64a,645,645 fd9e.m628,62e,64a fd9f.m62a,62c,64a
fda0.m62a,62c,649 fda1.m62a,62e,64a fda2.m62a,62e,649 fda3.m62a,645,64a fda4.m62a,645,649
fda5.m62c,645,64a fda6.m62c,62d,649 fda7.m62c,645,649 fda8.m633,62e,649 fda9.m635,62d,64a
fdaa.m634,62d,64a fdab.m636,62d,64a fdac.m644,62c,64a fdad.m644,645,64a fdae.m64a,62d,64a
fdaf.m64a,62c,64a fdb0.m64a,645,64a fdb1.m645,645,64a fdb2.m642,645,64a fdb3.m646,62d,64a
fdb4.m642,645,62d fdb5.m644,62d,645 fdb6.m639,645,64a fdb7.m643,645,64a fdb8.m646,62c,62d
fdb9.m645,62e,64a fdba.m644,62c,645 fdbb.m643,645,645 fdbc.m644,62c,645 fdbd.m646,62c,62d
fdbe.m62c,62d,64a fdbf.m62d,62c,64a fdc0.m645,62c,64a fdc1.m641,645,64a fdc2.m628,62d,64a
fdc3.m643,645,645 fdc4.m639,62c,645 fdc5.m635,645,645 fdc6.m633,62e,64a fdc7.m646,62c,64a fdc8.v
fdd0.x fdf0.m635,644,6d2 fdf1.m642,644,6d2 fdf2.m627,644,644,647 fdf3.m627,643,628,631
fdf4.m645,62d,645,62f fdf5.m635,644,639,645 fdf6.m631,633,648,644 fdf7.m639,644,64a,647
fdf8.m648,633,644,645 fdf9.m635,644,649
fdfa.m635,644,649,20,627,644,644,647,20,639,644,64a,647,20,648,633,644,645
fdfb.m62c,644,20,62c,644,627,644,647 fdfc.m631,6cc,627,644 fdfd.v fe00.m fe10.s2c fe11.s3001
fe12.x fe13.s3a fe15.s21 fe16.s3f fe17.s3016 fe19.x fe20.v fe30.x fe31.s2014 fe32.s2013 fe33.m5f
fe35.s28 fe37.s7b fe38.s7d fe39.s3014 fe3b.s3010 fe3d.s300a fe3f.s3008 fe41.s300c fe45.v fe47.s5b
fe48.s5d fe49.m20,305 fe4d.m5f fe50.s2c fe51.s3001 fe52.x fe54.s3b fe55.s3a fe56.s3f fe57.s21
fe58.s2014 fe59.s28 fe5b.s7b fe5c.s7d fe5d.s3014 fe5f.s23 fe60.s26 fe61.s2a fe63.s2d fe64.s3c
fe65.s3e fe66.s3d fe67.x fe68.s5c fe69.s24 fe6b.s40 fe6c.x fe70.m20,64b fe71.m640,64b fe72.m20,64c
fe73.v fe74.m20,64d fe75.x fe76.m20,64e fe77.m640,64e fe78.m20,64f fe79.m640,64f fe7a.m20,650
fe7b.m640,650 fe7c.m20,651 fe7d.m640,651 fe7e.m20,652 fe7f.m640,652 fe80.s621 fe82.s622 fe84.s623
fe86.s624 fe88.s625 fe8a.m626 fe8d.m627 fe8f.m628 fe93.m629 fe95.m62a fe99.m62b fe9d.m62c
fea1.m62d fea5.m62e fea9.m62f feab.m630 fead.m631 feaf.m632 feb1.m633 feb5.m634 feb9.m635
febd.m636 fec1.m637 fec5.m638 fec9.m639 fecd.m63a fed1.m641 fed5.m642 fed9.m643 fedd.m644
fee1.m645 fee5.m646 fee9.m647 feed.m648 feef.m649 fef1.m64a fef5.m644,622 fef7.m644,623
fef9.m644,625 fefb.m644,627 fefd.x feff.m ff00.x ff01.s21 ff21.s61 ff3b.s5b ff5f.s2985 ff61.s2e
ff62.s300c ff64.s3001 ff65.s30fb ff66.s30f2 ff67.s30a1 ff68.s30a3 ff69.s30a5 ff6a.s30a7 ff6b.s30a9
ff6c.s30e3 ff6d.s30e5 ff6e.s30e7 ff6f.s30c3 ff70.s30fc ff71.s30a2 ff72.s30a4 ff73.s30a6 ff74.s30a8
ff75.s30aa ff77.s30ad ff78.s30af ff79.s30b1 ff7a.s30b3 ff7b.s30b5 ff7c.s30b7 ff7d.s30b9 ff7e.s30bb
ff7f.s30bd ff80.s30bf ff81.s30c1 ff82.s30c4 ff83.s30c6 ff84.s30c8 ff85.s30ca ff8b.s30d2 ff8c.s30d5
ff8d.s30d8 ff8e.s30db ff8f.s30de ff94.s30e4 ff95.s30e6 ff96.s30e8 ff9c.s30ef ff9d.s30f3 ff9e.s3099
ffa0.m ffa1.s1100 ffa3.s11aa ffa4.s1102 ffa5.s11ac ffa7.s1103 ffaa.s11b0 ffb0.s111a ffb1.s1106
ffb4.s1121 ffb5.s1109 ffbf.x ffc2.s1161 ffc8.x ffca.s1167 ffd0.x ffd2.s116d ffd8.x ffda.s1173
ffdd.x ffe0.sa2 ffe2.sac ffe3.m20,304 ffe4.sa6 ffe5.sa5 ffe6.s20a9 ffe7.x ffe8.s2502 ffe9.s2190
ffed.s25a0 ffee.s25cb ffef.x 10000.v 1000c.x 1000d.v 10027.x 10028.v 1003b.x 1003c.v 1003e.x
1003f.v 1004e.x 10050.v 1005e.x 10080.v 100fb.x 10100.v 10103.x 10107.v 10134.x 10137.v 1018f.x
10190.v 1019d.x 101a0.v 101a1.x 101d0.v 101fe.x 10280.v 1029d.x 102a0.v 102d1.x 102e0.v 102fc.x
10300.v 10324.x 1032d.v 1034b.x 10350.v 1037b.x 10380.v 1039e.x 1039f.v 103c4.x 103c8.v 103d6.x
10400.s10428 10428.v 1049e.x 104a0.v 104aa.x 104b0.s104d8 104d4.x 104d8.v 104fc.x 10500.v 10528.x
10530.v 10564.x 1056f.v 10570.s10597 1057b.x 1057c.s105a3 1058b.x 1058c.s105b3 10593.x
10594.s105bb 10596.x 10597.v 105a2.x 105a3.v 105b2.x 105b3.v 105ba.x 105bb.v 105bd.x 105c0.v
105f4.x 10600.v 10737.x 10740.v 10756.x 10760.v 10768.x 10780.v 10781.s2d0 10783.se6 10784.s299
10785.s253 10786.x 10787.s2a3 10788.sab66 10789.s2a5 1078a.s2a4 1078b.s256 1078d.s1d91 1078e.s258
1078f.s25e 10790.s2a9 10791.s264 10792.s262 10793.s260 10794.s29b 10795.s127 10796.s29c 10797.s267
10798.s284 10799.s2aa 1079b.s26c 1079c.s1df04 1079d.sa78e 1079e.s26e 1079f.s1df05 107a0.s28e
107a1.s1df06 107a2.sf8 107a3.s276 107a5.s71 107a6.s27a 107a7.s1df08 107a8.s27d 107aa.s280
107ab.s2a8 107ac.s2a6 107ad.sab67 107ae.s2a7 107af.s288 107b0.s2c71 107b1.x 107b2.s28f 107b3.s2a1
107b5.s298 107b6.s1c0 107b9.s1df0a 107ba.s1df1e 107bb.x 10800.v 10806.x 10808.v 10809.x 1080a.v
10836.x 10837.v 10839.x 1083c.v 1083d.x 1083f.v 10856.x 10857.v 1089f.x 108a7.v 108b0.x 108e0.v
108f3.x 108f4.v 108f6.x 108fb.v 1091c.x 1091f.v 1093a.x 1093f.v 1095a.x 10980.v 109b8.x 109bc.v
109d0.x 109d2.v 10a04.x 10a05.v 10a07.x 10a0c.v 10a14.x 10a15.v 10a18.x 10a19.v 10a36.x 10a38.v
10a3b.x 10a3f.v 10a49.x 10a50.v 10a59.x 10a60.v 10aa0.x 10ac0.v 10ae7.x 10aeb.v 10af7.x 10b00.v
10b36.x 10b39.v 10b56.x 10b58.v 10b73.x 10b78.v 10b92.x 10b99.v 10b9d.x 10ba9.v 10bb0.x 10c00.v
10c49.x 10c80.s10cc0 10cb3.x 10cc0.v 10cf3.x 10cfa.v 10d28.x 10d30.v 10d3a.x 10d40.v 10d50.s10d70
10d66.x 10d69.v 10d86.x 10d8e.v 10d90.x 10e60.v 10e7f.x 10e80.v 10eaa.x 10eab.v 10eae.x 10eb0.v
10eb2.x 10ec2.v 10ec8.x 10ed0.v 10ed9.x 10efa.v 10f28.x 10f30.v 10f5a.x 10f70.v 10f8a.x 10fb0.v
10fcc.x 10fe0.v 10ff7.x 11000.v 1104e.x 11052.v 11076.x 1107f.v 110bd.x 110be.v 110c3.x 110d0.v
110e9.x 110f0.v 110fa.x 11100.v 11135.x 11136.v 11148.x 11150.v 11177.x 11180.v 111e0.x 111e1.v
111f5.x 11200.v 11212.x 11213.v 11242.x 11280.v 11287.x 11288.v 11289.x 1128a.v 1128e.x 1128f.v
1129e.x 1129f.v 112aa.x 112b0.v 112eb.x 112f0.v 112fa.x 11300.v 11304.x 11305.v 1130d.x 1130f.v
11311.x 11313.v 11329.x 1132a.v 11331.x 11332.v 11334.x 11335.v 1133a.x 1133b.v 11345.x 11347.v
11349.x 1134b.v 1134e.x 11350.v 11351.x 11357.v 11358.x 1135d.v 11364.x 11366.v 1136d.x 11370.v
11375.x 11380.v 1138a.x 1138b.v 1138c.x 1138e.v 1138f.x 11390.v 113b6.x 113b7.v 113c1.x 113c2.v
113c3.x 113c5.v 113c6.x 113c7.v 113cb.x 113cc.v 113d6.x 113d7.v 113d9.x 113e1.v 113e3.x 11400.v
1145c.x 1145d.v 11462.x 11480.v 114c8.x 114d0.v 114da.x 11580.v 115b6.x 115b8.v 115de.x 11600.v
11645.x 11650.v 1165a.x 11660.v 1166d.x 11680.v 116ba.x 116c0.v 116ca.x 116d0.v 116e4.x 11700.v
1171b.x 1171d.v 1172c.x 11730.v 11747.x 11800.v 1183c.x 118a0.s118c0 118c0.v 118f3.x 118ff.v
11907.x 11909.v 1190a.x 1190c.v 11914.x 11915.v 11917.x 11918.v 11936.x 11937.v 11939.x 1193b.v
11947.x 11950.v 1195a.x 119a0.v 119a8.x 119aa.v 119d8.x 119da.v 119e5.x 11a00.v 11a48.x 11a50.v
11aa3.x 11ab0.v 11af9.x 11b00.v 11b0a.x 11b60.v 11b68.x 11bc0.v 11be2.x 11bf0.v 11bfa.x 11c00.v
11c09.x 11c0a.v 11c37.x 11c38.v 11c46.x 11c50.v 11c6d.x 11c70.v 11c90.x 11c92.v 11ca8.x 11ca9.v
11cb7.x 11d00.v 11d07.x 11d08.v 11d0a.x 11d0b.v 11d37.x 11d3a.v 11d3b.x 11d3c.v 11d3e.x 11d3f.v
11d48.x 11d50.v 11d5a.x 11d60.v 11d66.x 11d67.v 11d69.x 11d6a.v 11d8f.x 11d90.v 11d92.x 11d93.v
11d99.x 11da0.v 11daa.x 11db0.v 11ddc.x 11de0.v 11dea.x 11ee0.v 11ef9.x 11f00.v 11f11.x 11f12.v
11f3b.x 11f3e.v 11f5b.x 11fb0.v 11fb1.x 11fc0.v 11ff2.x 11fff.v 1239a.x 12400.v 1246f.x 12470.v
12475.x 12480.v 12544.x 12f90.v 12ff3.x 13000.v 13430.x 13440.v 13456.x 13460.v 143fb.x 14400.v
14647.x 16100.v 1613a.x 16800.v 16a39.x 16a40.v 16a5f.x 16a60.v 16a6a.x 16a6e.v 16abf.x 16ac0.v
16aca.x 16ad0.v 16aee.x 16af0.v 16af6.x 16b00.v 16b46.x 16b50.v 16b5a.x 16b5b.v 16b62.x 16b63.v
16b78.x 16b7d.v 16b90.x 16d40.v 16d7a.x 16e40.s16e60 16e60.v 16e9b.x 16ea0.s16ebb 16eb9.x 16ebb.v
16ed4.x 16f00.v 16f4b.x 16f4f.v 16f88.x 16f8f.v 16fa0.x 16fe0.v 16fe5.x 16ff0.v 16ff7.x 17000.v
18cd6.x 18cff.v 18d1f.x 18d80.v 18df3.x 1aff0.v 1aff4.x 1aff5.v 1affc.x 1affd.v 1afff.x 1b000.v
1b123.x 1b132.v 1b133.x 1b150.v 1b153.x 1b155.v 1b156.x 1b164.v 1b168.x 1b170.v 1b2fc.x 1bc00.v
1bc6b.x 1bc70.v 1bc7d.x 1bc80.v 1bc89.x 1bc90.v 1bc9a.x 1bc9c.v 1bca0.m 1bca4.x 1cc00.v 1ccd6.s61
1ccf0.s30 1ccfa.v 1ccfd.x 1cd00.v 1ceb4.x 1ceba.v 1ced1.x 1cee0.v 1cef1.x 1cf00.v 1cf2e.x 1cf30.v
1cf47.x 1cf50.v 1cfc4.x 1d000.v 1d0f6.x 1d100.v 1d127.x 1d129.v 1d15e.m1d157,1d165
1d15f.m1d158,1d165 1d160.m1d158,1d165,1d16e 1d161.m1d158,1d165,1d16f 1d162.m1d158,1d165,1d170
1d163.m1d158,1d165,1d171 1d164.m1d158,1d165,1d172 1d165.v 1d173.m 1d17b.v 1d1bb.m1d1b9,1d165
1d1bc.m1d1ba,1d165 1d1bd.m1d1b9,1d165,1d16e 1d1be.m1d1ba,1d165,1d16e 1d1bf.m1d1b9,1d165,1d16f
1d1c0.m1d1ba,1d165,1d16f 1d1c1.v 1d1eb.x 1d200.v 1d246.x 1d2c0.v 1d2d4.x 1d2e0.v 1d2f4.x 1d300.v
1d357.x 1d360.v 1d379.x 1d400.s61 1d41a.s61 1d434.s61 1d44e.s61 1d455.x 1d456.s69 1d468.s61
1d482.s61 1d49c.s61 1d49d.x 1d49e.s63 1d4a0.x 1d4a2.s67 1d4a3.x 1d4a5.s6a 1d4a7.x 1d4a9.s6e
1d4ad.x 1d4ae.s73 1d4b6.s61 1d4ba.x 1d4bb.s66 1d4bc.x 1d4bd.s68 1d4c4.x 1d4c5.s70 1d4d0.s61
1d4ea.s61 1d504.s61 1d506.x 1d507.s64 1d50b.x 1d50d.s6a 1d515.x 1d516.s73 1d51d.x 1d51e.s61
1d538.s61 1d53a.x 1d53b.s64 1d53f.x 1d540.s69 1d545.x 1d546.s6f 1d547.x 1d54a.s73 1d551.x
1d552.s61 1d56c.s61 1d586.s61 1d5a0.s61 1d5ba.s61 1d5d4.s61 1d5ee.s61 1d608.s61 1d622.s61
1d63c.s61 1d656.s61 1d670.s61 1d68a.s61 1d6a4.s131 1d6a5.s237 1d6a6.x 1d6a8.s3b1 1d6b9.s3b8
1d6ba.s3c3 1d6c1.s2207 1d6c2.s3b1 1d6d3.m3c3 1d6d5.s3c4 1d6db.s2202 1d6dc.s3b5 1d6dd.s3b8
1d6de.s3ba 1d6df.s3c6 1d6e0.s3c1 1d6e1.s3c0 1d6e2.s3b1 1d6f3.s3b8 1d6f4.s3c3 1d6fb.s2207
1d6fc.s3b1 1d70d.m3c3 1d70f.s3c4 1d715.s2202 1d716.s3b5 1d717.s3b8 1d718.s3ba 1d719.s3c6
1d71a.s3c1 1d71b.s3c0 1d71c.s3b1 1d72d.s3b8 1d72e.s3c3 1d735.s2207 1d736.s3b1 1d747.m3c3
1d749.s3c4 1d74f.s2202 1d750.s3b5 1d751.s3b8 1d752.s3ba 1d753.s3c6 1d754.s3c1 1d755.s3c0
1d756.s3b1 1d767.s3b8 1d768.s3c3 1d76f.s2207 1d770.s3b1 1d781.m3c3 1d783.s3c4 1d789.s2202
1d78a.s3b5 1d78b.s3b8 1d78c.s3ba 1d78d.s3c6 1d78e.s3c1 1d78f.s3c0 1d790.s3b1 1d7a1.s3b8 1d7a2.s3c3
1d7a9.s2207 1d7aa.s3b1 1d7bb.m3c3 1d7bd.s3c4 1d7c3.s2202 1d7c4.s3b5 1d7c5.s3b8 1d7c6.s3ba
1d7c7.s3c6 1d7c8.s3c1 1d7c9.s3c0 1d7ca.m3dd 1d7cc.x 1d7ce.s30 1d7d8.s30 1d7e2.s30 1d7ec.s30
1d7f6.s30 1d800.v 1da8c.x 1da9b.v 1daa0.x 1daa1.v 1dab0.x 1df00.v 1df1f.x 1df25.v 1df2b.x 1e000.v
1e007.x 1e008.v 1e019.x 1e01b.v 1e022.x 1e023.v 1e025.x 1e026.v 1e02b.x 1e030.s430 1e039.s43a
1e03c.s43e 1e047.s44b 1e048.s44d 1e04a.sa689 1e04b.s4d9 1e04c.s456 1e04d.s458 1e04e.s4e9
1e04f.s4af 1e050.s4cf 1e051.s430 1e05a.s43a 1e05c.s43e 1e05e.s441 1e05f.s443 1e065.s44a 1e067.s491
1e068.s456 1e069.s455 1e06a.s45f 1e06b.s4ab 1e06c.sa651 1e06d.s4b1 1e06e.x 1e08f.v 1e090.x 1e100.v
1e12d.x 1e130.v 1e13e.x 1e140.v 1e14a.x 1e14e.v 1e150.x 1e290.v 1e2af.x 1e2c0.v 1e2fa.x 1e2ff.v
1e300.x 1e4d0.v 1e4fa.x 1e5d0.v 1e5fb.x 1e5ff.v 1e600.x 1e6c0.v 1e6df.x 1e6e0.v 1e6f6.x 1e6fe.v
1e700.x 1e7e0.v 1e7e7.x 1e7e8.v 1e7ec.x 1e7ed.v 1e7ef.x 1e7f0.v 1e7ff.x 1e800.v 1e8c5.x 1e8c7.v
1e8d7.x 1e900.s1e922 1e922.v 1e94c.x 1e950.v 1e95a.x 1e95e.v 1e960.x 1ec71.v 1ecb5.x 1ed01.v
1ed3e.x 1ee00.s627 1ee02.s62c 1ee03.s62f 1ee04.x 1ee05.s648 1ee06.s632 1ee07.s62d 1ee08.s637
1ee09.s64a 1ee0a.s643 1ee0e.s633 1ee0f.s639 1ee10.s641 1ee11.s635 1ee12.s642 1ee13.s631 1ee14.s634
1ee15.s62a 1ee17.s62e 1ee18.s630 1ee19.s636 1ee1a.s638 1ee1b.s63a 1ee1c.s66e 1ee1d.s6ba 1ee1e.s6a1
1ee1f.s66f 1ee20.x 1ee21.s628 1ee22.s62c 1ee23.x 1ee24.s647 1ee25.x 1ee27.s62d 1ee28.x 1ee29.s64a
1ee2a.s643 1ee2e.s633 1ee2f.s639 1ee30.s641 1ee31.s635 1ee32.s642 1ee33.x 1ee34.s634 1ee35.s62a
1ee37.s62e 1ee38.x 1ee39.s636 1ee3a.x 1ee3b.s63a 1ee3c.x 1ee42.s62c 1ee43.x 1ee47.s62d 1ee48.x
1ee49.s64a 1ee4a.x 1ee4b.s644 1ee4c.x 1ee4d.s646 1ee4e.s633 1ee4f.s639 1ee50.x 1ee51.s635
1ee52.s642 1ee53.x 1ee54.s634 1ee55.x 1ee57.s62e 1ee58.x 1ee59.s636 1ee5a.x 1ee5b.s63a 1ee5c.x
1ee5d.s6ba 1ee5e.x 1ee5f.s66f 1ee60.x 1ee61.s628 1ee62.s62c 1ee63.x 1ee64.s647 1ee65.x 1ee67.s62d
1ee68.s637 1ee69.s64a 1ee6a.s643 1ee6b.x 1ee6c.s645 1ee6e.s633 1ee6f.s639 1ee70.s641 1ee71.s635
1ee72.s642 1ee73.x 1ee74.s634 1ee75.s62a 1ee77.s62e 1ee78.x 1ee79.s636 1ee7a.s638 1ee7b.s63a
1ee7c.s66e 1ee7d.x 1ee7e.s6a1 1ee7f.x 1ee80.s627 1ee82.s62c 1ee83.s62f 1ee84.s647 1ee86.s632
1ee87.s62d 1ee88.s637 1ee89.s64a 1ee8a.x 1ee8b.s644 1ee8e.s633 1ee8f.s639 1ee90.s641 1ee91.s635
1ee92.s642 1ee93.s631 1ee94.s634 1ee95.s62a 1ee97.s62e 1ee98.s630 1ee99.s636 1ee9a.s638 1ee9b.s63a
1ee9c.x 1eea1.s628 1eea2.s62c 1eea3.s62f 1eea4.x 1eea5.s648 1eea6.s632 1eea7.s62d 1eea8.s637
1eea9.s64a 1eeaa.x 1eeab.s644 1eeae.s633 1eeaf.s639 1eeb0.s641 1eeb1.s635 1eeb2.s642 1eeb3.s631
1eeb4.s634 1eeb5.s62a 1eeb7.s62e 1eeb8.s630 1eeb9.s636 1eeba.s638 1eebb.s63a 1eebc.x 1eef0.v
1eef2.x 1f000.v 1f02c.x 1f030.v 1f094.x 1f0a0.v 1f0af.x 1f0b1.v 1f0c0.x 1f0c1.v 1f0d0.x 1f0d1.v
1f0f6.x 1f101.m30,2c 1f102.m31,2c 1f103.m32,2c 1f104.m33,2c 1f105.m34,2c 1f106.m35,2c 1f107.m36,2c
1f108.m37,2c 1f109.m38,2c 1f10a.m39,2c 1f10b.v 1f110.m28,61,29 1f111.m28,62,29 1f112.m28,63,29
1f113.m28,64,29 1f114.m28,65,29 1f115.m28,66,29 1f116.m28,67,29 1f117.m28,68,29 1f118.m28,69,29
1f119.m28,6a,29 1f11a.m28,6b,29 1f11b.m28,6c,29 1f11c.m28,6d,29 1f11d.m28,6e,29 1f11e.m28,6f,29
1f11f.m28,70,29 1f120.m28,71,29 1f121.m28,72,29 1f122.m28,73,29 1f123.m28,74,29 1f124.m28,75,29
1f125.m28,76,29 1f126.m28,77,29 1f127.m28,78,29 1f128.m28,79,29 1f129.m28,7a,29
1f12a.m3014,73,3015 1f12b.s63 1f12c.s72 1f12d.m63,64 1f12e.m77,7a 1f12f.v 1f130.s61 1f14a.m68,76
1f14b.m6d,76 1f14c.m73,64 1f14d.m73,73 1f14e.m70,70,76 1f14f.m77,63 1f150.v 1f16a.m6d,63
1f16b.m6d,64 1f16c.m6d,72 1f16d.v 1f190.m64,6a 1f191.v 1f1ae.x 1f1e6.v 1f200.m307b,304b
1f201.m30b3,30b3 1f202.s30b5 1f203.x 1f210.s624b 1f211.s5b57 1f212.s53cc 1f213.s30c7 1f214.s4e8c
1f215.s591a 1f216.s89e3 1f217.s5929 1f218.s4ea4 1f219.s6620 1f21a.s7121 1f21b.s6599 1f21c.s524d
1f21d.s5f8c 1f21e.s518d 1f21f.s65b0 1f220.s521d 1f221.s7d42 1f222.s751f 1f223.s8ca9 1f224.s58f0
1f225.s5439 1f226.s6f14 1f227.s6295 1f228.s6355 1f229.s4e00 1f22a.s4e09 1f22b.s904a 1f22c.s5de6
1f22d.s4e2d 1f22e.s53f3 1f22f.s6307 1f230.s8d70 1f231.s6253 1f232.s7981 1f233.s7a7a 1f234.s5408
1f235.s6e80 1f236.s6709 1f237.s6708 1f238.s7533 1f239.s5272 1f23a.s55b6 1f23b.s914d 1f23c.x
1f240.m3014,672c,3015 1f241.m3014,4e09,3015 1f242.m3014,4e8c,3015 1f243.m3014,5b89,3015
1f244.m3014,70b9,3015 1f245.m3014,6253,3015 1f246.m3014,76d7,3015 1f247.m3014,52dd,3015
1f248.m3014,6557,3015 1f249.x 1f250.s5f97 1f251.s53ef 1f252.x 1f260.v 1f266.x 1f300.v 1f6d9.x
1f6dc.v 1f6ed.x 1f6f0.v 1f6fd.x 1f700.v 1f7da.x 1f7e0.v 1f7ec.x 1f7f0.v 1f7f1.x 1f800.v 1f80c.x
1f810.v 1f848.x 1f850.v 1f85a.x 1f860.v 1f888.x 1f890.v 1f8ae.x 1f8b0.v 1f8bc.x 1f8c0.v 1f8c2.x
1f8d0.v 1f8d9.x 1f900.v 1fa58.x 1fa60.v 1fa6e.x 1fa70.v 1fa7d.x 1fa80.v 1fa8b.x 1fa8e.v 1fac7.x
1fac8.v 1fac9.x 1facd.v 1fadd.x 1fadf.v 1faeb.x 1faef.v 1faf9.x 1fb00.v 1fb93.x 1fb94.v 1fbf0.s30
1fbfa.v 1fbfb.x 20000.v 2a6e0.x 2a700.v 2b81e.x 2b820.v 2ceae.x 2ceb0.v 2ebe1.x 2ebf0.v 2ee5e.x
2f800.s4e3d 2f801.s4e38 2f802.s4e41 2f803.s20122 2f804.s4f60 2f805.s4fae 2f806.s4fbb 2f807.s5002
2f808.s507a 2f809.s5099 2f80a.s50e7 2f80b.s50cf 2f80c.s349e 2f80d.s2063a 2f80e.s514d 2f80f.s5154
2f810.s5164 2f811.s5177 2f812.s2051c 2f813.s34b9 2f814.s5167 2f815.s518d 2f816.s2054b 2f817.s5197
2f818.s51a4 2f819.s4ecc 2f81a.s51ac 2f81b.s51b5 2f81c.s291df 2f81d.s51f5 2f81e.s5203 2f81f.s34df
2f820.s523b 2f821.s5246 2f822.s5272 2f823.s5277 2f824.s3515 2f825.s52c7 2f826.s52c9 2f827.s52e4
2f828.s52fa 2f829.s5305 2f82b.s5317 2f82c.s5349 2f82d.s5351 2f82e.s535a 2f82f.s5373 2f830.s537d
2f831.m537f 2f834.s20a2c 2f835.s7070 2f836.s53ca 2f837.s53df 2f838.s20b63 2f839.s53eb 2f83a.s53f1
2f83b.s5406 2f83c.s549e 2f83d.s5438 2f83e.s5448 2f83f.s5468 2f840.s54a2 2f841.s54f6 2f842.s5510
2f843.s5553 2f844.s5563 2f845.m5584 2f847.s5599 2f848.s55ab 2f849.s55b3 2f84a.s55c2 2f84b.s5716
2f84c.s5606 2f84d.s5717 2f84e.s5651 2f84f.s5674 2f850.s5207 2f851.s58ee 2f852.s57ce 2f853.s57f4
2f854.s580d 2f855.s578b 2f856.s5832 2f857.s5831 2f858.s58ac 2f859.s214e4 2f85a.s58f2 2f85b.s58f7
2f85c.s5906 2f85d.s591a 2f85e.s5922 2f85f.s5962 2f860.s216a8 2f861.s216ea 2f862.s59ec 2f863.s5a1b
2f864.s5a27 2f865.s59d8 2f866.s5a66 2f867.s36ee 2f868.s36fc 2f869.s5b08 2f86a.m5b3e 2f86c.s219c8
2f86d.s5bc3 2f86e.s5bd8 2f86f.s5be7 2f870.s5bf3 2f871.s21b18 2f872.s5bff 2f873.s5c06 2f874.s5f53
2f875.s5c22 2f876.s3781 2f877.s5c60 2f878.s5c6e 2f879.s5cc0 2f87a.s5c8d 2f87b.s21de4 2f87c.s5d43
2f87d.s21de6 2f87e.s5d6e 2f87f.s5d6b 2f880.s5d7c 2f881.s5de1 2f883.s382f 2f884.s5dfd 2f885.s5e28
2f886.s5e3d 2f887.s5e69 2f888.s3862 2f889.s22183 2f88a.s387c 2f88b.s5eb0 2f88c.s5eb3 2f88d.s5eb6
2f88e.s5eca 2f88f.s2a392 2f890.s5efe 2f891.m22331 2f893.s8201 2f894.m5f22 2f896.s38c7 2f897.s232b8
2f898.s261da 2f899.s5f62 2f89a.s5f6b 2f89b.s38e3 2f89c.s5f9a 2f89d.s5fcd 2f89e.s5fd7 2f89f.s5ff9
2f8a0.s6081 2f8a1.s393a 2f8a2.s391c 2f8a3.s6094 2f8a4.s226d4 2f8a5.s60c7 2f8a6.s6148 2f8a7.s614c
2f8a8.s614e 2f8a9.s614c 2f8aa.s617a 2f8ab.s618e 2f8ac.s61b2 2f8ad.s61a4 2f8ae.s61af 2f8af.s61de
2f8b0.s61f2 2f8b1.s61f6 2f8b2.s6210 2f8b3.s621b 2f8b4.s625d 2f8b5.s62b1 2f8b6.s62d4 2f8b7.s6350
2f8b8.s22b0c 2f8b9.s633d 2f8ba.s62fc 2f8bb.s6368 2f8bc.s6383 2f8bd.s63e4 2f8be.s22bf1 2f8bf.s6422
2f8c0.s63c5 2f8c1.s63a9 2f8c2.s3a2e 2f8c3.s6469 2f8c4.s647e 2f8c5.s649d 2f8c6.s6477 2f8c7.s3a6c
2f8c8.s654f 2f8c9.s656c 2f8ca.s2300a 2f8cb.s65e3 2f8cc.s66f8 2f8cd.s6649 2f8ce.s3b19 2f8cf.s6691
2f8d0.s3b08 2f8d1.s3ae4 2f8d2.s5192 2f8d3.s5195 2f8d4.s6700 2f8d5.s669c 2f8d6.s80ad 2f8d7.s43d9
2f8d8.s6717 2f8d9.s671b 2f8da.s6721 2f8db.s675e 2f8dc.s6753 2f8dd.s233c3 2f8de.s3b49 2f8df.s67fa
2f8e0.s6785 2f8e1.s6852 2f8e2.s6885 2f8e3.s2346d 2f8e4.s688e 2f8e5.s681f 2f8e6.s6914 2f8e7.s3b9d
2f8e8.s6942 2f8e9.s69a3 2f8ea.s69ea 2f8eb.s6aa8 2f8ec.s236a3 2f8ed.s6adb 2f8ee.s3c18 2f8ef.s6b21
2f8f0.s238a7 2f8f1.s6b54 2f8f2.s3c4e 2f8f3.s6b72 2f8f4.s6b9f 2f8f5.s6bba 2f8f7.s23a8d 2f8f8.s21d0b
2f8f9.s23afa 2f8fa.s6c4e 2f8fb.s23cbc 2f8fc.s6cbf 2f8fd.s6ccd 2f8fe.s6c67 2f8ff.s6d16 2f900.s6d3e
2f901.s6d77 2f902.s6d41 2f903.s6d69 2f904.s6d78 2f905.s6d85 2f906.s23d1e 2f907.s6d34 2f908.s6e2f
2f909.s6e6e 2f90a.s3d33 2f90b.s6ecb 2f90c.s6ec7 2f90d.s23ed1 2f90e.s6df9 2f90f.s6f6e 2f910.s23f5e
2f911.s23f8e 2f912.s6fc6 2f913.s7039 2f914.s701e 2f915.s701b 2f916.s3d96 2f917.s704a 2f918.s707d
2f919.s7077 2f91a.s70ad 2f91b.s20525 2f91c.s7145 2f91d.s24263 2f91e.s719c 2f91f.s243ab 2f920.s7228
2f921.s7235 2f922.s7250 2f923.s24608 2f924.s7280 2f925.s7295 2f926.s24735 2f927.s24814 2f928.s737a
2f929.s738b 2f92a.s3eac 2f92b.s73a5 2f92c.m3eb8 2f92e.s7447 2f92f.s745c 2f930.s7471 2f931.s7485
2f932.s74ca 2f933.s3f1b 2f934.s7524 2f935.s24c36 2f936.s753e 2f937.s24c92 2f938.s7570 2f939.s2219f
2f93a.s7610 2f93b.s24fa1 2f93c.s24fb8 2f93d.s25044 2f93e.s3ffc 2f93f.s4008 2f940.s76f4
2f941.s250f3 2f942.s250f2 2f943.s25119 2f944.s25133 2f945.s771e 2f947.s771f 2f948.s774a
2f949.s4039 2f94a.s778b 2f94b.s4046 2f94c.s4096 2f94d.s2541d 2f94e.s784e 2f94f.s788c 2f950.s78cc
2f951.s40e3 2f952.s25626 2f953.s7956 2f954.s2569a 2f955.s256c5 2f956.s798f 2f957.s79eb 2f958.s412f
2f959.s7a40 2f95a.s7a4a 2f95b.s7a4f 2f95c.s2597c 2f95d.m25aa7 2f95f.s7aee 2f960.s4202 2f961.s25bab
2f962.s7bc6 2f963.s7bc9 2f964.s4227 2f965.s25c80 2f966.s7cd2 2f967.s42a0 2f968.s7ce8 2f969.s7ce3
2f96a.s7d00 2f96b.s25f86 2f96c.s7d63 2f96d.s4301 2f96e.s7dc7 2f96f.s7e02 2f970.s7e45 2f971.s4334
2f972.s26228 2f973.s26247 2f974.s4359 2f975.s262d9 2f976.s7f7a 2f977.s2633e 2f978.s7f95
2f979.s7ffa 2f97a.s8005 2f97b.s264da 2f97c.s26523 2f97d.s8060 2f97e.s265a8 2f97f.s8070
2f980.s2335f 2f981.s43d5 2f982.s80b2 2f983.s8103 2f984.s440b 2f985.s813e 2f986.s5ab5 2f987.s267a7
2f988.s267b5 2f989.s23393 2f98a.s2339c 2f98b.s8201 2f98c.s8204 2f98d.s8f9e 2f98e.s446b 2f98f.s8291
2f990.s828b 2f991.s829d 2f992.s52b3 2f993.s82b1 2f994.s82b3 2f995.s82bd 2f996.s82e6 2f997.s26b3c
2f998.s82e5 2f999.s831d 2f99a.s8363 2f99b.s83ad 2f99c.s8323 2f99d.s83bd 2f99e.s83e7 2f99f.s8457
2f9a0.s8353 2f9a1.s83ca 2f9a2.s83cc 2f9a3.s83dc 2f9a4.s26c36 2f9a5.s26d6b 2f9a6.s26cd5 2f9a7.s452b
2f9a8.s84f1 2f9a9.s84f3 2f9aa.s8516 2f9ab.s273ca 2f9ac.s8564 2f9ad.s26f2c 2f9ae.s455d 2f9af.s4561
2f9b0.s26fb1 2f9b1.s270d2 2f9b2.s456b 2f9b3.s8650 2f9b4.s865c 2f9b5.s8667 2f9b6.s8669 2f9b7.s86a9
2f9b8.s8688 2f9b9.s870e 2f9ba.s86e2 2f9bb.s8779 2f9bc.s8728 2f9bd.s876b 2f9be.s8786 2f9bf.s45d7
2f9c0.s87e1 2f9c1.s8801 2f9c2.s45f9 2f9c3.s8860 2f9c4.s8863 2f9c5.s27667 2f9c6.s88d7 2f9c7.s88de
2f9c8.s4635 2f9c9.s88fa 2f9ca.s34bb 2f9cb.s278ae 2f9cc.s27966 2f9cd.s46be 2f9ce.s46c7 2f9cf.s8aa0
2f9d0.s8aed 2f9d1.s8b8a 2f9d2.s8c55 2f9d3.s27ca8 2f9d4.s8cab 2f9d5.s8cc1 2f9d6.s8d1b 2f9d7.s8d77
2f9d8.s27f2f 2f9d9.s20804 2f9da.s8dcb 2f9db.s8dbc 2f9dc.s8df0 2f9dd.s208de 2f9de.s8ed4 2f9df.s8f38
2f9e0.s285d2 2f9e1.s285ed 2f9e2.s9094 2f9e3.s90f1 2f9e4.s9111 2f9e5.s2872e 2f9e6.s911b 2f9e7.s9238
2f9e8.s92d7 2f9ea.s927c 2f9eb.s93f9 2f9ec.s9415 2f9ed.s28bfa 2f9ee.s958b 2f9ef.s4995 2f9f0.s95b7
2f9f1.s28d77 2f9f2.s49e6 2f9f3.s96c3 2f9f4.s5db2 2f9f5.s9723 2f9f6.s29145 2f9f7.s2921a 2f9f8.s4a6e
2f9f9.s4a76 2f9fa.s97e0 2f9fb.s2940a 2f9fc.s4ab2 2f9fd.s29496 2f9fe.m980b 2fa00.s9829 2fa01.s295b6
2fa02.s98e2 2fa03.s4b33 2fa04.s9929 2fa05.s99a7 2fa06.s99c2 2fa07.s99fe 2fa08.s4bce 2fa09.s29b30
2fa0a.s9b12 2fa0b.s9c40 2fa0c.s9cfd 2fa0d.s4cce 2fa0e.s4ced 2fa0f.s9d67 2fa10.s2a0ce 2fa11.s4cf8
2fa12.s2a105 2fa13.s2a20e 2fa14.s2a291 2fa15.s9ebb 2fa16.s4d56 2fa17.s9ef9 2fa18.s9efe 2fa19.s9f05
2fa1a.s9f0f 2fa1b.s9f16 2fa1c.s9f3b 2fa1d.s2a600 2fa1e.x 30000.v 3134b.x 31350.v 3347a.x e0100.m
e01f0.x"

end Switchboard.Text
