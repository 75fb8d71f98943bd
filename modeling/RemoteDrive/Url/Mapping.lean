import RemoteDrive.Text.Composed

/-!
# Characters of a domain

Domains are compared without regard to case, width and other differences of form, so each character
has another one, or several, in its place, or none because it does not count; many may not stand
there at all. `mapping?` is that table, and `fold?` the form in which two domains are compared. In
the table a character stands for itself if its other form differs by being composed or taken apart
only, since the form of the whole text is composed anyway.

The letters of the table: `v` the character itself, `i` nothing, `x` not allowed, `s` the
characters from the number on, in the same order, `a` every second character stands for the one
before it too, `m` a list, of which the first number says how many characters belong to each.
-/

set_option autoImplicit false

namespace RemoteDrive.Domain

/-- What domains make of the characters from U+0080 on. -/
def mappingText : String :=
  "x80 mA0.1.20 vA1 mA8.2.20.308 vA9 mAA.1.61 vAB iAD vAE mAF.2.20.304 vB0 mB2.1.32.33
   mB4.2.20.301 mB5.1.3BC vB6 mB8.2.20.327 mB9.1.31.6F vBB mBC.3.31.2044.34.31.2044.32.33.2044.34
   vBF sC0.E0 vD7 sD8.F8 vDF a100 m130.2.69.307 v131 m132.2.69.6A.69.6A a134 v138 a139
   m13F.2.6C.B7.6C.B7 a141 m149.2.2BC.6E a14A m178.1.FF a179 m17F.1.73 v180 m181.1.253.183 v183
   m184.1.185 v185 m186.1.254.188 v188 m189.1.256.257.18C v18C m18E.1.1DD.259.25B.192 v192
   m193.1.260.263 v195 m196.1.269.268.199 v199 m19C.1.26F.272 v19E m19F.1.275 a1A0 m1A6.1.280.1A8
   v1A8 m1A9.1.283 v1AA m1AC.1.1AD v1AD m1AE.1.288.1B0 v1B0 m1B1.1.28A.28B.1B4 v1B4 m1B5.1.1B6
   v1B6 m1B7.1.292.1B9 v1B9 m1BC.1.1BD v1BD
   m1C4.2.64.17E.64.17E.64.17E.6C.6A.6C.6A.6C.6A.6E.6A.6E.6A.6E.6A a1CD v1DD a1DE v1F0
   m1F1.2.64.7A.64.7A.64.7A m1F4.1.1F5 v1F5 m1F6.1.195.1BF a1F8 m220.1.19E v221 a222 v234
   m23A.1.2C65.23C v23C m23D.1.19A.2C66 v23F m241.1.242 v242 m243.1.180.289.28C a246 v250
   m2B0.1.68.266.6A.72.279.27B.281.77.79 v2B9 m2D8.2.20.306.20.307.20.30A.20.328.20.303.20.30B
   v2DE m2E0.1.263.6C.73.78.295 v2E5 m345.1.3B9 v346 i34F v350 a370 v374 m376.1.377 v377 x378
   m37A.2.20.3B9 v37B m37F.1.3F3 x380 m384.2.20.301 m385.3.20.308.301 m386.1.3AC v387 s388.3AD
   x38B m38C.1.3CC x38D m38E.1.3CD.3CE v390 s391.3B1 x3A2 s3A3.3C3 v3AC
   m3CF.1.3D7.3B2.3B8.3C5.3CD.3CB.3C6.3C0 v3D7 a3D8 m3F0.1.3BA.3C1.3C3 v3F3 m3F4.1.3B8.3B5 v3F6
   m3F7.1.3F8 v3F8 m3F9.1.3C3.3FB v3FB s3FD.37B s400.450 s410.430 v430 a460 v482 a48A m4C0.1.4CF
   a4C1 v4CF a4D0 x530 s531.561 x557 v559 m587.2.565.582 v588 x58B v58D x590 v591 x5C8 v5D0 x5EB
   v5EF x5F5 v606 x61C v61D m675.2.627.674.648.674.6C7.674.64A.674 v679 x6DD v6DE x70E v710 x74B
   v74D x7B2 v7C0 x7FB v7FD x82E v830 x83F v840 x85C v85E x85F v860 x86B v870 x890 v897 x8E2 v8E3
   x984 v985 x98D v98F x991 v993 x9A9 v9AA x9B1 v9B2 x9B3 v9B6 x9BA v9BC x9C5 v9C7 x9C9 v9CB x9CF
   v9D7 x9D8 v9DC x9DE v9DF x9E4 v9E6 x9FF vA01 xA04 vA05 xA0B vA0F xA11 vA13 xA29 vA2A xA31 vA32
   xA34 vA35 xA37 vA38 xA3A vA3C xA3D vA3E xA43 vA47 xA49 vA4B xA4E vA51 xA52 vA59 xA5D vA5E xA5F
   vA66 xA77 vA81 xA84 vA85 xA8E vA8F xA92 vA93 xAA9 vAAA xAB1 vAB2 xAB4 vAB5 xABA vABC xAC6 vAC7
   xACA vACB xACE vAD0 xAD1 vAE0 xAE4 vAE6 xAF2 vAF9 xB00 vB01 xB04 vB05 xB0D vB0F xB11 vB13 xB29
   vB2A xB31 vB32 xB34 vB35 xB3A vB3C xB45 vB47 xB49 vB4B xB4E vB55 xB58 vB5C xB5E vB5F xB64 vB66
   xB78 vB82 xB84 vB85 xB8B vB8E xB91 vB92 xB96 vB99 xB9B vB9C xB9D vB9E xBA0 vBA3 xBA5 vBA8 xBAB
   vBAE xBBA vBBE xBC3 vBC6 xBC9 vBCA xBCE vBD0 xBD1 vBD7 xBD8 vBE6 xBFB vC00 xC0D vC0E xC11 vC12
   xC29 vC2A xC3A vC3C xC45 vC46 xC49 vC4A xC4E vC55 xC57 vC58 xC5B vC5C xC5E vC60 xC64 vC66 xC70
   vC77 xC8D vC8E xC91 vC92 xCA9 vCAA xCB4 vCB5 xCBA vCBC xCC5 vCC6 xCC9 vCCA xCCE vCD5 xCD7 vCDC
   xCDF vCE0 xCE4 vCE6 xCF0 vCF1 xCF4 vD00 xD0D vD0E xD11 vD12 xD45 vD46 xD49 vD4A xD50 vD54 xD64
   vD66 xD80 vD81 xD84 vD85 xD97 vD9A xDB2 vDB3 xDBC vDBD xDBE vDC0 xDC7 vDCA xDCB vDCF xDD5 vDD6
   xDD7 vDD8 xDE0 vDE6 xDF0 vDF2 xDF5 vE01 mE33.2.E4D.E32 vE34 xE3B vE3F xE5C vE81 xE83 vE84 xE85
   vE86 xE8B vE8C xEA4 vEA5 xEA6 vEA7 mEB3.2.ECD.EB2 vEB4 xEBE vEC0 xEC5 vEC6 xEC7 vEC8 xECF vED0
   xEDA mEDC.2.EAB.E99.EAB.EA1 vEDE xEE0 vF00 mF0C.1.F0B vF0D xF48 vF49 xF6D vF71
   mF77.3.FB2.F71.F80 vF78 mF79.3.FB3.F71.F80 vF7A xF98 vF99 xFBD vFBE xFCD vFCE xFDB v1000
   s10A0.2D00 x10C6 m10C7.1.2D27 x10C8 m10CD.1.2D2D x10CE v10D0 m10FC.1.10DC v10FD i115F v1161
   x1249 v124A x124E v1250 x1257 v1258 x1259 v125A x125E v1260 x1289 v128A x128E v1290 x12B1
   v12B2 x12B6 v12B8 x12BF v12C0 x12C1 v12C2 x12C6 v12C8 x12D7 v12D8 x1311 v1312 x1316 v1318
   x135B v135D x137D v1380 x139A v13A0 x13F6 s13F8.13F0 x13FE v1400 x1680 v1681 x169D v16A0 x16F9
   v1700 x1716 v171F x1737 v1740 x1754 v1760 x176D v176E x1771 v1772 x1774 v1780 i17B4 v17B6
   x17DE v17E0 x17EA v17F0 x17FA v1800 i180B v1810 x181A v1820 x1879 v1880 x18AB v18B0 x18F6
   v1900 x191F v1920 x192C v1930 x193C v1940 x1941 v1944 x196E v1970 x1975 v1980 x19AC v19B0
   x19CA v19D0 x19DB v19DE x1A1C v1A1E x1A5F v1A60 x1A7D v1A7F x1A8A v1A90 x1A9A v1AA0 x1AAE
   v1AB0 x1ADE v1AE0 x1AEC v1B00 x1B4D v1B4E x1BF4 v1BFC x1C38 v1C3B x1C4A v1C4D
   m1C80.1.432.434.43E.441.442.442.44A.463.A64B.1C8A v1C8A x1C8B s1C90.10D0 x1CBB s1CBD.10FD
   v1CC0 x1CC8 v1CD0 x1CFB v1D00 m1D2C.1.61.E6.62 v1D2F m1D30.1.64.65.1DD s1D33.67 v1D3B
   m1D3C.1.6F.223.70.72.74.75.77.61.250.251.1D02.62.64.65.259.25B.25C.67 v1D4E
   m1D4F.1.6B.6D.14B.6F.254.1D16.1D17.70.74.75.1D1D.26F.76.1D25.3B2.3B3.3B4.3C6.3C7.69.72
   m1D64.1.75.76.3B2.3B3.3C1.3C6.3C7 v1D6B m1D78.1.43D v1D79
   m1D9B.1.252.63.255.F0.25C.66.25F.261.265.268.269.26A.1D7B.29D.26D.1D85.29F.271.270 s1DAE.272
   m1DB2.1.278.282.283.1AB.289.28A.1D1C.28B.28C.7A.290.291.292.3B8 v1DC0 a1E00 v1E96
   m1E9A.2.61.2BE m1E9B.1.1E61 v1E9C m1E9E.1.DF v1E9F a1EA0 v1F00 s1F08.1F00 v1F10 x1F16
   s1F18.1F10 x1F1E v1F20 s1F28.1F20 v1F30 s1F38.1F30 v1F40 x1F46 s1F48.1F40 x1F4E v1F50 x1F58
   m1F59.1.1F51 x1F5A m1F5B.1.1F53 x1F5C m1F5D.1.1F55 x1F5E m1F5F.1.1F57 v1F60 s1F68.1F60 v1F70
   x1F7E m1F80.2.1F00.3B9.1F01.3B9.1F02.3B9.1F03.3B9.1F04.3B9.1F05.3B9.1F06.3B9.1F07.3B9
   m1F88.2.1F00.3B9.1F01.3B9.1F02.3B9.1F03.3B9.1F04.3B9.1F05.3B9.1F06.3B9.1F07.3B9
   m1F90.2.1F20.3B9.1F21.3B9.1F22.3B9.1F23.3B9.1F24.3B9.1F25.3B9.1F26.3B9.1F27.3B9
   m1F98.2.1F20.3B9.1F21.3B9.1F22.3B9.1F23.3B9.1F24.3B9.1F25.3B9.1F26.3B9.1F27.3B9
   m1FA0.2.1F60.3B9.1F61.3B9.1F62.3B9.1F63.3B9.1F64.3B9.1F65.3B9.1F66.3B9.1F67.3B9
   m1FA8.2.1F60.3B9.1F61.3B9.1F62.3B9.1F63.3B9.1F64.3B9.1F65.3B9.1F66.3B9.1F67.3B9 v1FB0
   m1FB2.2.1F70.3B9.3B1.3B9.3AC.3B9 x1FB5 v1FB6 m1FB7.2.1FB6.3B9 m1FB8.1.1FB0.1FB1.1F70.3AC
   m1FBC.2.3B1.3B9.20.313 v1FBE m1FBF.2.20.313.20.342 m1FC1.3.20.308.342
   m1FC2.2.1F74.3B9.3B7.3B9.3AE.3B9 x1FC5 v1FC6 m1FC7.2.1FC6.3B9 m1FC8.1.1F72.3AD.1F74.3AE
   m1FCC.2.3B7.3B9 m1FCD.3.20.313.300.20.313.301.20.313.342 v1FD0 x1FD4 v1FD6
   m1FD8.1.1FD0.1FD1.1F76.3AF x1FDC m1FDD.3.20.314.300.20.314.301.20.314.342 v1FE0
   m1FE8.1.1FE0.1FE1.1F7A.3CD.1FE5 m1FED.3.20.308.300.20.308.301 v1FEF x1FF0
   m1FF2.2.1F7C.3B9.3C9.3B9.3CE.3B9 x1FF5 v1FF6 m1FF7.2.1FF6.3B9 m1FF8.1.1F78.3CC.1F7C.3CE
   m1FFC.2.3C9.3B9.20.301.20.314 x1FFF m2000.1.20.20.20.20.20.20.20.20.20.20.20 i200B v200C x200E
   v2010 m2011.1.2010 v2012 m2017.2.20.333 v2018 x2024 v2027 x2028 m202F.1.20 v2030
   m2033.2.2032.2032 m2034.3.2032.2032.2032 v2035 m2036.2.2035.2035 m2037.3.2035.2035.2035 v2038
   m203C.2.21.21 v203D m203E.2.20.305 v203F m2047.2.3F.3F.3F.21.21.3F v204A
   m2057.4.2032.2032.2032.2032 v2058 m205F.1.20 i2060 x2065 i206A m2070.1.30.69 x2072 s2074.34
   m207A.1.2B.2212.3D.28.29.6E s2080.30 m208A.1.2B.2212.3D.28.29 x208F m2090.1.61.65.6F.78.259.68
   s2096.6B m209A.1.70.73.74 x209D v20A0 m20A8.2.72.73 v20A9 x20C2 v20D0 x20F1
   m2100.3.61.2F.63.61.2F.73 m2102.1.63 m2103.2.B0.63 v2104 m2105.3.63.2F.6F.63.2F.75 m2107.1.25B
   v2108 m2109.2.B0.66 m210A.1.67.68.68.68.68.127.69.69.6C.6C v2114 m2115.1.6E m2116.2.6E.6F
   v2117 s2119.70 m211C.1.72.72 v211E m2120.2.73.6D m2121.3.74.65.6C m2122.2.74.6D v2123
   m2124.1.7A v2125 m2126.1.3C9 v2127 m2128.1.7A v2129 m212A.1.6B.E5.62.63 v212E
   m212F.1.65.65.66.214E.6D.6F s2135.5D0 m2139.1.69 v213A m213B.3.66.61.78
   m213C.1.3C0.3B3.3B3.3C0.2211 v2141 m2145.1.64.64.65.69.6A v214A m2150.3.31.2044.37.31.2044.39
   m2152.4.31.2044.31.30
   m2153.3.31.2044.33.32.2044.33.31.2044.35.32.2044.35.33.2044.35.34.2044.35.31.2044.36
   m215A.3.35.2044.36.31.2044.38.33.2044.38.35.2044.38.37.2044.38 m215F.2.31.2044 m2160.1.69
   m2161.2.69.69 m2162.3.69.69.69 m2163.2.69.76 m2164.1.76 m2165.2.76.69 m2166.3.76.69.69
   m2167.4.76.69.69.69 m2168.2.69.78 m2169.1.78 m216A.2.78.69 m216B.3.78.69.69
   m216C.1.6C.63.64.6D.69 m2171.2.69.69 m2172.3.69.69.69 m2173.2.69.76 m2174.1.76 m2175.2.76.69
   m2176.3.76.69.69 m2177.4.76.69.69.69 m2178.2.69.78 m2179.1.78 m217A.2.78.69 m217B.3.78.69.69
   m217C.1.6C.63.64.6D v2180 m2183.1.2184 v2184 m2189.3.30.2044.33 v218A x218C v2190
   m222C.2.222B.222B m222D.3.222B.222B.222B v222E m222F.2.222E.222E m2230.3.222E.222E.222E v2231
   x242A v2440 x244B s2460.31
   m2469.2.31.30.31.31.31.32.31.33.31.34.31.35.31.36.31.37.31.38.31.39.32.30
   m2474.3.28.31.29.28.32.29.28.33.29.28.34.29.28.35.29.28.36.29.28.37.29.28.38.29
   m247C.3.28.39.29
   m247D.4.28.31.30.29.28.31.31.29.28.31.32.29.28.31.33.29.28.31.34.29.28.31.35.29
   m2483.4.28.31.36.29.28.31.37.29.28.31.38.29.28.31.39.29.28.32.30.29 x2488
   m249C.3.28.61.29.28.62.29.28.63.29.28.64.29.28.65.29.28.66.29.28.67.29.28.68.29
   m24A4.3.28.69.29.28.6A.29.28.6B.29.28.6C.29.28.6D.29.28.6E.29.28.6F.29.28.70.29
   m24AC.3.28.71.29.28.72.29.28.73.29.28.74.29.28.75.29.28.76.29.28.77.29.28.78.29
   m24B4.3.28.79.29.28.7A.29 s24B6.61 s24D0.61 m24EA.1.30 v24EB m2A0C.4.222B.222B.222B.222B v2A0D
   m2A74.3.3A.3A.3D m2A75.2.3D.3D m2A76.3.3D.3D.3D v2A77 x2B74 v2B76 s2C00.2C30 v2C30
   m2C60.1.2C61 v2C61 m2C62.1.26B.1D7D.27D v2C65 a2C67 m2C6D.1.251.271.250.252 v2C71 m2C72.1.2C73
   v2C73 m2C75.1.2C76 v2C76 m2C7C.1.6A.76.23F.240 a2C80 v2CE4 a2CEB v2CEF m2CF2.1.2CF3 v2CF3
   x2CF4 v2CF9 x2D26 v2D27 x2D28 v2D2D x2D2E v2D30 x2D68 m2D6F.1.2D61 v2D70 x2D71 v2D7F x2D97
   v2DA0 x2DA7 v2DA8 x2DAF v2DB0 x2DB7 v2DB8 x2DBF v2DC0 x2DC7 v2DC8 x2DCF v2DD0 x2DD7 v2DD8
   x2DDF v2DE0 x2E5E v2E80 x2E9A v2E9B m2E9F.1.6BCD v2EA0 m2EF3.1.9F9F x2EF4
   m2F00.1.4E00.4E28.4E36.4E3F.4E59.4E85.4E8C.4EA0.4EBA.513F.5165.516B.5182.5196.51AB
   m2F0F.1.51E0.51F5.5200.529B.52F9.5315.531A.5338.5341.535C.5369.5382.53B6.53C8.53E3
   m2F1E.1.56D7.571F.58EB.5902.590A.5915.5927.5973.5B50.5B80.5BF8.5C0F.5C22.5C38.5C6E
   m2F2D.1.5C71.5DDB.5DE5.5DF1.5DFE.5E72.5E7A.5E7F.5EF4.5EFE.5F0B.5F13.5F50.5F61.5F73
   m2F3C.1.5FC3.6208.6236.624B.652F.6534.6587.6597.65A4.65B9.65E0.65E5.66F0.6708.6728
   m2F4B.1.6B20.6B62.6B79.6BB3.6BCB.6BD4.6BDB.6C0F.6C14.6C34.706B.722A.7236.723B.723F
   m2F5A.1.7247.7259.725B.72AC.7384.7389.74DC.74E6.7518.751F.7528.7530.758B.7592.7676
   m2F69.1.767D.76AE.76BF.76EE.77DB.77E2.77F3.793A.79B8.79BE.7A74.7ACB.7AF9.7C73.7CF8
   m2F78.1.7F36.7F51.7F8A.7FBD.8001.800C.8012.8033.807F.8089.81E3.81EA.81F3.81FC.820C
   m2F87.1.821B.821F.826E.8272.8278.864D.866B.8840.884C.8863.897E.898B.89D2.8A00.8C37
   m2F96.1.8C46.8C55.8C78.8C9D.8D64.8D70.8DB3.8EAB.8ECA.8F9B.8FB0.8FB5.9091.9149.91C6
   m2FA5.1.91CC.91D1.9577.9580.961C.96B6.96B9.96E8.9751.975E.9762.9769.97CB.97ED.97F3
   m2FB4.1.9801.98A8.98DB.98DF.9996.9999.99AC.9AA8.9AD8.9ADF.9B25.9B2F.9B32.9B3C.9B5A
   m2FC3.1.9CE5.9E75.9E7F.9EA5.9EBB.9EC3.9ECD.9ED1.9EF9.9EFD.9F0E.9F13.9F20.9F3B.9F4A
   m2FD2.1.9F52.9F8D.9F9C.9FA0 x2FD6 m3000.1.20 v3001 m3002.1.2E v3003 m3036.1.3012 v3037
   m3038.1.5341.5344.5345 v303B x3040 v3041 x3097 v3099 m309B.2.20.3099.20.309A v309D
   m309F.2.3088.308A v30A0 m30FF.2.30B3.30C8 x3100 v3105 x3130
   m3131.1.1100.1101.11AA.1102.11AC.11AD.1103.1104.1105 s313A.11B0
   m3140.1.111A.1106.1107.1108.1121 s3145.1109 s314F.1161 i3164
   m3165.1.1114.1115.11C7.11C8.11CC.11CE.11D3.11D7.11D9.111C.11DD.11DF.111D.111E.1120
   m3174.1.1122.1123.1127.1129 s3178.112B
   m317D.1.1132.1136.1140.1147.114C.11F1.11F2.1157.1158.1159.1184.1185.1188.1191.1192
   m318C.1.1194.119E.11A1 x318F v3190
   m3192.1.4E00.4E8C.4E09.56DB.4E0A.4E2D.4E0B.7532.4E59.4E19.4E01.5929.5730.4EBA v31A0 x31E6
   v31F0 m3200.3.28.1100.29.28.1102.29.28.1103.29.28.1105.29.28.1106.29.28.1107.29.28.1109.29
   m3207.3.28.110B.29.28.110C.29.28.110E.29.28.110F.29.28.1110.29.28.1111.29.28.1112.29
   m320E.3.28.AC00.29.28.B098.29.28.B2E4.29.28.B77C.29.28.B9C8.29.28.BC14.29.28.C0AC.29
   m3215.3.28.C544.29.28.C790.29.28.CC28.29.28.CE74.29.28.D0C0.29.28.D30C.29.28.D558.29
   m321C.3.28.C8FC.29 m321D.4.28.C624.C804.29.28.C624.D6C4.29 x321F
   m3220.3.28.4E00.29.28.4E8C.29.28.4E09.29.28.56DB.29.28.4E94.29.28.516D.29.28.4E03.29
   m3227.3.28.516B.29.28.4E5D.29.28.5341.29.28.6708.29.28.706B.29.28.6C34.29.28.6728.29
   m322E.3.28.91D1.29.28.571F.29.28.65E5.29.28.682A.29.28.6709.29.28.793E.29.28.540D.29
   m3235.3.28.7279.29.28.8CA1.29.28.795D.29.28.52B4.29.28.4EE3.29.28.547C.29.28.5B66.29
   m323C.3.28.76E3.29.28.4F01.29.28.8CC7.29.28.5354.29.28.796D.29.28.4F11.29.28.81EA.29
   m3243.3.28.81F3.29 m3244.1.554F.5E7C.6587.7B8F v3248 m3250.3.70.74.65
   m3251.2.32.31.32.32.32.33.32.34.32.35.32.36.32.37.32.38.32.39.33.30.33.31.33.32.33.33
   m325E.2.33.34.33.35 m3260.1.1100.1102.1103.1105.1106.1107.1109.110B.110C s3269.110E
   m326E.1.AC00.B098.B2E4.B77C.B9C8.BC14.C0AC.C544.C790.CC28.CE74.D0C0.D30C.D558
   m327C.2.CC38.ACE0.C8FC.C758 m327E.1.C6B0 v327F
   m3280.1.4E00.4E8C.4E09.56DB.4E94.516D.4E03.516B.4E5D.5341.6708.706B.6C34.6728.91D1
   m328F.1.571F.65E5.682A.6709.793E.540D.7279.8CA1.795D.52B4.79D8.7537.5973.9069.512A
   m329E.1.5370.6CE8.9805.4F11.5199.6B63.4E0A.4E2D.4E0B.5DE6.53F3.533B.5B97.5B66.76E3
   m32AD.1.4F01.8CC7.5354.591C
   m32B1.2.33.36.33.37.33.38.33.39.34.30.34.31.34.32.34.33.34.34.34.35.34.36.34.37.34.38
   m32BE.2.34.39.35.30.31.6708.32.6708.33.6708.34.6708.35.6708.36.6708.37.6708.38.6708
   m32C8.2.39.6708 m32C9.3.31.30.6708.31.31.6708.31.32.6708 m32CC.2.68.67 m32CD.3.65.72.67
   m32CE.2.65.76 m32CF.3.6C.74.64
   m32D0.1.30A2.30A4.30A6.30A8.30AA.30AB.30AD.30AF.30B1.30B3.30B5.30B7.30B9.30BB.30BD
   m32DF.1.30BF.30C1.30C4.30C6.30C8 s32E4.30CA m32EA.1.30D2.30D5.30D8.30DB s32EE.30DE
   m32F3.1.30E4.30E6 s32F5.30E8 s32FB.30EF m32FF.2.4EE4.548C
   m3300.4.30A2.30D1.30FC.30C8.30A2.30EB.30D5.30A1.30A2.30F3.30DA.30A2 m3303.3.30A2.30FC.30EB
   m3304.4.30A4.30CB.30F3.30B0 m3305.3.30A4.30F3.30C1.30A6.30A9.30F3
   m3307.5.30A8.30B9.30AF.30FC.30C9 m3308.4.30A8.30FC.30AB.30FC
   m3309.3.30AA.30F3.30B9.30AA.30FC.30E0.30AB.30A4.30EA
   m330C.4.30AB.30E9.30C3.30C8.30AB.30ED.30EA.30FC m330E.3.30AC.30ED.30F3.30AC.30F3.30DE
   m3310.2.30AE.30AC m3311.3.30AE.30CB.30FC m3312.4.30AD.30E5.30EA.30FC.30AE.30EB.30C0.30FC
   m3314.2.30AD.30ED m3315.5.30AD.30ED.30B0.30E9.30E0 m3316.6.30AD.30ED.30E1.30FC.30C8.30EB
   m3317.5.30AD.30ED.30EF.30C3.30C8 m3318.3.30B0.30E9.30E0
   m3319.5.30B0.30E9.30E0.30C8.30F3.30AF.30EB.30BC.30A4.30ED m331B.4.30AF.30ED.30FC.30CD
   m331C.3.30B1.30FC.30B9.30B3.30EB.30CA.30B3.30FC.30DD m331F.4.30B5.30A4.30AF.30EB
   m3320.5.30B5.30F3.30C1.30FC.30E0 m3321.4.30B7.30EA.30F3.30B0
   m3322.3.30BB.30F3.30C1.30BB.30F3.30C8.30C0.30FC.30B9
   m3325.2.30C7.30B7.30C9.30EB.30C8.30F3.30CA.30CE m3329.3.30CE.30C3.30C8.30CF.30A4.30C4
   m332B.5.30D1.30FC.30BB.30F3.30C8 m332C.3.30D1.30FC.30C4 m332D.4.30D0.30FC.30EC.30EB
   m332E.5.30D4.30A2.30B9.30C8.30EB m332F.3.30D4.30AF.30EB m3330.2.30D4.30B3.30D3.30EB
   m3332.5.30D5.30A1.30E9.30C3.30C9 m3333.4.30D5.30A3.30FC.30C8 m3334.5.30D6.30C3.30B7.30A7.30EB
   m3335.3.30D5.30E9.30F3 m3336.5.30D8.30AF.30BF.30FC.30EB m3337.2.30DA.30BD
   m3338.3.30DA.30CB.30D2.30D8.30EB.30C4.30DA.30F3.30B9.30DA.30FC.30B8.30D9.30FC.30BF
   m333D.4.30DD.30A4.30F3.30C8 m333E.3.30DC.30EB.30C8 m333F.2.30DB.30F3
   m3340.3.30DD.30F3.30C9.30DB.30FC.30EB.30DB.30FC.30F3 m3343.4.30DE.30A4.30AF.30ED
   m3344.3.30DE.30A4.30EB.30DE.30C3.30CF.30DE.30EB.30AF m3347.5.30DE.30F3.30B7.30E7.30F3
   m3348.4.30DF.30AF.30ED.30F3 m3349.2.30DF.30EA m334A.5.30DF.30EA.30D0.30FC.30EB
   m334B.2.30E1.30AC m334C.4.30E1.30AC.30C8.30F3.30E1.30FC.30C8.30EB
   m334E.3.30E4.30FC.30C9.30E4.30FC.30EB.30E6.30A2.30F3 m3351.4.30EA.30C3.30C8.30EB
   m3352.2.30EA.30E9 m3353.3.30EB.30D4.30FC m3354.4.30EB.30FC.30D6.30EB m3355.2.30EC.30E0
   m3356.5.30EC.30F3.30C8.30B2.30F3 m3357.3.30EF.30C3.30C8
   m3358.2.30.70B9.31.70B9.32.70B9.33.70B9.34.70B9.35.70B9.36.70B9.37.70B9.38.70B9
   m3361.2.39.70B9
   m3362.3.31.30.70B9.31.31.70B9.31.32.70B9.31.33.70B9.31.34.70B9.31.35.70B9.31.36.70B9
   m3369.3.31.37.70B9.31.38.70B9.31.39.70B9.32.30.70B9.32.31.70B9.32.32.70B9.32.33.70B9
   m3370.3.32.34.70B9.68.70.61 m3372.2.64.61.61.75 m3374.3.62.61.72 m3375.2.6F.76.70.63.64.6D
   m3378.3.64.6D.32.64.6D.33 m337A.2.69.75.5E73.6210.662D.548C.5927.6B63.660E.6CBB
   m337F.4.682A.5F0F.4F1A.793E m3380.2.70.61.6E.61.3BC.61.6D.61.6B.61.6B.62.6D.62.67.62
   m3388.3.63.61.6C m3389.4.6B.63.61.6C m338A.2.70.66.6E.66.3BC.66.3BC.67.6D.67.6B.67.68.7A
   m3391.3.6B.68.7A.6D.68.7A.67.68.7A.74.68.7A
   m3395.2.3BC.6C.6D.6C.64.6C.6B.6C.66.6D.6E.6D.3BC.6D.6D.6D.63.6D.6B.6D
   m339F.3.6D.6D.32.63.6D.32 m33A1.2.6D.32 m33A2.3.6B.6D.32.6D.6D.33.63.6D.33 m33A5.2.6D.33
   m33A6.3.6B.6D.33.6D.2215.73 m33A8.4.6D.2215.73.32 m33A9.2.70.61
   m33AA.3.6B.70.61.6D.70.61.67.70.61.72.61.64 m33AE.5.72.61.64.2215.73
   m33AF.6.72.61.64.2215.73.32
   m33B0.2.70.73.6E.73.3BC.73.6D.73.70.76.6E.76.3BC.76.6D.76.6B.76.6D.76.70.77.6E.77
   m33BC.2.3BC.77.6D.77.6B.77.6D.77.6B.3C9.6D.3C9 x33C2 m33C3.2.62.71.63.63.63.64
   m33C6.4.63.2215.6B.67 x33C7
   m33C8.2.64.62.67.79.68.61.68.70.69.6E.6B.6B.6B.6D.6B.74.6C.6D.6C.6E m33D2.3.6C.6F.67
   m33D3.2.6C.78.6D.62 m33D5.3.6D.69.6C.6D.6F.6C m33D7.2.70.68 x33D8 m33D9.3.70.70.6D
   m33DA.2.70.72.73.72.73.76.77.62 m33DE.3.76.2215.6D.61.2215.6D
   m33E0.2.31.65E5.32.65E5.33.65E5.34.65E5.35.65E5.36.65E5.37.65E5.38.65E5.39.65E5
   m33E9.3.31.30.65E5.31.31.65E5.31.32.65E5.31.33.65E5.31.34.65E5.31.35.65E5.31.36.65E5
   m33F0.3.31.37.65E5.31.38.65E5.31.39.65E5.32.30.65E5.32.31.65E5.32.32.65E5.32.33.65E5
   m33F7.3.32.34.65E5.32.35.65E5.32.36.65E5.32.37.65E5.32.38.65E5.32.39.65E5.33.30.65E5
   m33FE.3.33.31.65E5.67.61.6C v3400 xA48D vA490 xA4C7 vA4D0 xA62C aA640 vA66E aA680
   mA69C.1.44A.44C vA69E xA6F8 vA700 aA722 vA730 aA732 mA770.1.A76F vA771 aA779 mA77D.1.1D79
   aA77E vA788 mA78B.1.A78C vA78C mA78D.1.265 vA78E aA790 vA794 aA796 mA7AA.1.266.25C.261.26C.26A
   vA7AF mA7B0.1.29E.287.29D.AB53 aA7B4 mA7C4.1.A794.282.1D8E.A7C8 vA7C8 mA7C9.1.A7CA vA7CA
   mA7CB.1.264 aA7CC mA7DC.1.19B xA7DD mA7F1.1.73.63.66.71.A7F6 vA7F6 mA7F8.1.127.153 vA7FA xA82D
   vA830 xA83A vA840 xA878 vA880 xA8C6 vA8CE xA8DA vA8E0 xA954 vA95F xA97D vA980 xA9CE vA9CF
   xA9DA vA9DE xA9FF vAA00 xAA37 vAA40 xAA4E vAA50 xAA5A vAA5C xAAC3 vAADB xAAF7 vAB01 xAB07
   vAB09 xAB0F vAB11 xAB17 vAB20 xAB27 vAB28 xAB2F vAB30 mAB5C.1.A727.AB37.26B.AB52 vAB60
   mAB69.1.28D vAB6A xAB6C sAB70.13A0 vABC0 xABEE vABF0 xABFA vAC00 xD7A4 vD7B0 xD7C7 vD7CB xD7FC
   vF900 xFA6E vFA70 xFADA mFB00.2.66.66.66.69.66.6C mFB03.3.66.66.69.66.66.6C
   mFB05.2.73.74.73.74 xFB07 mFB13.2.574.576.574.565.574.56B.57E.576.574.56D xFB18 vFB1D
   mFB20.1.5E2.5D0.5D3.5D4.5DB.5DC.5DD.5E8.5EA.2B vFB2A xFB37 vFB38 xFB3D vFB3E xFB3F vFB40 xFB42
   vFB43 xFB45 vFB46 mFB4F.2.5D0.5DC
   mFB50.1.671.671.67B.67B.67B.67B.67E.67E.67E.67E.680.680.680.680.67A.67A.67A.67A.67F
   mFB63.1.67F.67F.67F.679.679.679.679.6A4.6A4.6A4.6A4.6A6.6A6.6A6.6A6.684.684.684.684
   mFB76.1.683.683.683.683.686.686.686.686.687.687.687.687.68D.68D.68C.68C.68E.68E.688
   mFB89.1.688.698.698.691.691.6A9.6A9.6A9.6A9.6AF.6AF.6AF.6AF.6B3.6B3.6B3.6B3.6B1.6B1
   mFB9C.1.6B1.6B1.6BA.6BA.6BB.6BB.6BB.6BB.6C0.6C0.6C1.6C1.6C1.6C1.6BE.6BE.6BE.6BE.6D2
   mFBAF.1.6D2.6D3.6D3 vFBB2 mFBD3.1.6AD.6AD.6AD.6AD.6C7.6C7.6C6.6C6.6C8.6C8 mFBDD.2.6C7.674
   mFBDE.1.6CB.6CB.6C5.6C5.6C9.6C9.6D0.6D0.6D0.6D0.649.649
   mFBEA.2.626.627.626.627.626.6D5.626.6D5.626.648.626.648.626.6C7.626.6C7.626.6C6
   mFBF3.2.626.6C6.626.6C8.626.6C8.626.6D0.626.6D0.626.6D0.626.649.626.649.626.649
   mFBFC.1.6CC.6CC.6CC.6CC
   mFC00.2.626.62C.626.62D.626.645.626.649.626.64A.628.62C.628.62D.628.62E.628.645
   mFC09.2.628.649.628.64A.62A.62C.62A.62D.62A.62E.62A.645.62A.649.62A.64A.62B.62C
   mFC12.2.62B.645.62B.649.62B.64A.62C.62D.62C.645.62D.62C.62D.645.62E.62C.62E.62D
   mFC1B.2.62E.645.633.62C.633.62D.633.62E.633.645.635.62D.635.645.636.62C.636.62D
   mFC24.2.636.62E.636.645.637.62D.637.645.638.645.639.62C.639.645.63A.62C.63A.645
   mFC2D.2.641.62C.641.62D.641.62E.641.645.641.649.641.64A.642.62D.642.645.642.649
   mFC36.2.642.64A.643.627.643.62C.643.62D.643.62E.643.644.643.645.643.649.643.64A
   mFC3F.2.644.62C.644.62D.644.62E.644.645.644.649.644.64A.645.62C.645.62D.645.62E
   mFC48.2.645.645.645.649.645.64A.646.62C.646.62D.646.62E.646.645.646.649.646.64A
   mFC51.2.647.62C.647.645.647.649.647.64A.64A.62C.64A.62D.64A.62E.64A.645.64A.649
   mFC5A.2.64A.64A.630.670.631.670.649.670
   mFC5E.3.20.64C.651.20.64D.651.20.64E.651.20.64F.651.20.650.651.20.651.670
   mFC64.2.626.631.626.632.626.645.626.646.626.649.626.64A.628.631.628.632.628.645
   mFC6D.2.628.646.628.649.628.64A.62A.631.62A.632.62A.645.62A.646.62A.649.62A.64A
   mFC76.2.62B.631.62B.632.62B.645.62B.646.62B.649.62B.64A.641.649.641.64A.642.649
   mFC7F.2.642.64A.643.627.643.644.643.645.643.649.643.64A.644.645.644.649.644.64A
   mFC88.2.645.627.645.645.646.631.646.632.646.645.646.646.646.649.646.64A.649.670
   mFC91.2.64A.631.64A.632.64A.645.64A.646.64A.649.64A.64A.626.62C.626.62D.626.62E
   mFC9A.2.626.645.626.647.628.62C.628.62D.628.62E.628.645.628.647.62A.62C.62A.62D
   mFCA3.2.62A.62E.62A.645.62A.647.62B.645.62C.62D.62C.645.62D.62C.62D.645.62E.62C
   mFCAC.2.62E.645.633.62C.633.62D.633.62E.633.645.635.62D.635.62E.635.645.636.62C
   mFCB5.2.636.62D.636.62E.636.645.637.62D.638.645.639.62C.639.645.63A.62C.63A.645
   mFCBE.2.641.62C.641.62D.641.62E.641.645.642.62D.642.645.643.62C.643.62D.643.62E
   mFCC7.2.643.644.643.645.644.62C.644.62D.644.62E.644.645.644.647.645.62C.645.62D
   mFCD0.2.645.62E.645.645.646.62C.646.62D.646.62E.646.645.646.647.647.62C.647.645
   mFCD9.2.647.670.64A.62C.64A.62D.64A.62E.64A.645.64A.647.626.645.626.647.628.645
   mFCE2.2.628.647.62A.645.62A.647.62B.645.62B.647.633.645.633.647.634.645.634.647
   mFCEB.2.643.644.643.645.644.645.646.645.646.647.64A.645.64A.647
   mFCF2.3.640.64E.651.640.64F.651.640.650.651
   mFCF5.2.637.649.637.64A.639.649.639.64A.63A.649.63A.64A.633.649.633.64A.634.649
   mFCFE.2.634.64A.62D.649.62D.64A.62C.649.62C.64A.62E.649.62E.64A.635.649.635.64A
   mFD07.2.636.649.636.64A.634.62C.634.62D.634.62E.634.645.634.631.633.631.635.631
   mFD10.2.636.631.637.649.637.64A.639.649.639.64A.63A.649.63A.64A.633.649.633.64A
   mFD19.2.634.649.634.64A.62D.649.62D.64A.62C.649.62C.64A.62E.649.62E.64A.635.649
   mFD22.2.635.64A.636.649.636.64A.634.62C.634.62D.634.62E.634.645.634.631.633.631
   mFD2B.2.635.631.636.631.634.62C.634.62D.634.62E.634.645.633.647.634.647.637.645
   mFD34.2.633.62C.633.62D.633.62E.634.62C.634.62D.634.62E.637.645.638.645.627.64B
   mFD3D.2.627.64B vFD3E
   mFD50.3.62A.62C.645.62A.62D.62C.62A.62D.62C.62A.62D.645.62A.62E.645.62A.645.62C
   mFD56.3.62A.645.62D.62A.645.62E.62C.645.62D.62C.645.62D.62D.645.64A.62D.645.649
   mFD5C.3.633.62D.62C.633.62C.62D.633.62C.649.633.645.62D.633.645.62D.633.645.62C
   mFD62.3.633.645.645.633.645.645.635.62D.62D.635.62D.62D.635.645.645.634.62D.645
   mFD68.3.634.62D.645.634.62C.64A.634.645.62E.634.645.62E.634.645.645.634.645.645
   mFD6E.3.636.62D.649.636.62E.645.636.62E.645.637.645.62D.637.645.62D.637.645.645
   mFD74.3.637.645.64A.639.62C.645.639.645.645.639.645.645.639.645.649.63A.645.645
   mFD7A.3.63A.645.64A.63A.645.649.641.62E.645.641.62E.645.642.645.62D.642.645.645
   mFD80.3.644.62D.645.644.62D.64A.644.62D.649.644.62C.62C.644.62C.62C.644.62E.645
   mFD86.3.644.62E.645.644.645.62D.644.645.62D.645.62D.62C.645.62D.645.645.62D.64A
   mFD8C.3.645.62C.62D.645.62C.645.645.62E.62C.645.62E.645 vFD90
   mFD92.3.645.62C.62E.647.645.62C.647.645.645.646.62D.645.646.62D.649.646.62C.645
   mFD98.3.646.62C.645.646.62C.649.646.645.64A.646.645.649.64A.645.645.64A.645.645
   mFD9E.3.628.62E.64A.62A.62C.64A.62A.62C.649.62A.62E.64A.62A.62E.649.62A.645.64A
   mFDA4.3.62A.645.649.62C.645.64A.62C.62D.649.62C.645.649.633.62E.649.635.62D.64A
   mFDAA.3.634.62D.64A.636.62D.64A.644.62C.64A.644.645.64A.64A.62D.64A.64A.62C.64A
   mFDB0.3.64A.645.64A.645.645.64A.642.645.64A.646.62D.64A.642.645.62D.644.62D.645
   mFDB6.3.639.645.64A.643.645.64A.646.62C.62D.645.62E.64A.644.62C.645.643.645.645
   mFDBC.3.644.62C.645.646.62C.62D.62C.62D.64A.62D.62C.64A.645.62C.64A.641.645.64A
   mFDC2.3.628.62D.64A.643.645.645.639.62C.645.635.645.645.633.62E.64A.646.62C.64A vFDC8 xFDD0
   mFDF0.3.635.644.6D2.642.644.6D2
   mFDF2.4.627.644.644.647.627.643.628.631.645.62D.645.62F.635.644.639.645
   mFDF6.4.631.633.648.644.639.644.64A.647.648.633.644.645 mFDF9.3.635.644.649
   mFDFA.12.635.644.649.20.627.644.644.647.20.639.644.64A.647.20.648.633.644.645
   mFDFB.8.62C.644.20.62C.644.627.644.647 mFDFC.4.631.6CC.627.644 vFDFD iFE00 mFE10.1.2C.3001
   xFE12 mFE13.1.3A.3B.21.3F.3016.3017 xFE19 vFE20 xFE30
   mFE31.1.2014.2013.5F.5F.28.29.7B.7D.3014.3015.3010.3011.300A.300B.3008.3009 sFE41.300C vFE45
   mFE47.1.5B.5D mFE49.2.20.305.20.305.20.305.20.305 mFE4D.1.5F.5F.5F.2C.3001 xFE52
   mFE54.1.3B.3A.3F.21.2014.28.29.7B.7D.3014.3015.23.26.2A.2B.2D.3C.3E.3D xFE67
   mFE68.1.5C.24.25.40 xFE6C mFE70.2.20.64B.640.64B.20.64C vFE73 mFE74.2.20.64D xFE75
   mFE76.2.20.64E.640.64E.20.64F.640.64F.20.650.640.650.20.651.640.651.20.652.640.652
   mFE80.1.621.622.622.623.623.624.624.625.625.626.626.626.626.627.627.628.628.628.628
   mFE93.1.629.629.62A.62A.62A.62A.62B.62B.62B.62B.62C.62C.62C.62C.62D.62D.62D.62D.62E
   mFEA6.1.62E.62E.62E.62F.62F.630.630.631.631.632.632.633.633.633.633.634.634.634.634
   mFEB9.1.635.635.635.635.636.636.636.636.637.637.637.637.638.638.638.638.639.639.639
   mFECC.1.639.63A.63A.63A.63A.641.641.641.641.642.642.642.642.643.643.643.643.644.644
   mFEDF.1.644.644.645.645.645.645.646.646.646.646.647.647.647.647.648.648.649.649.64A
   mFEF2.1.64A.64A.64A mFEF5.2.644.622.644.622.644.623.644.623.644.625.644.625.644.627.644.627
   xFEFD iFEFF xFF00 sFF01.21 sFF21.61 sFF3B.5B
   mFF5F.1.2985.2986.2E.300C.300D.3001.30FB.30F2.30A1.30A3.30A5.30A7.30A9.30E3.30E5.30E7
   mFF6F.1.30C3.30FC.30A2.30A4.30A6.30A8.30AA.30AB.30AD.30AF.30B1.30B3.30B5.30B7.30B9
   mFF7E.1.30BB.30BD.30BF.30C1.30C4.30C6.30C8 sFF85.30CA mFF8B.1.30D2.30D5.30D8.30DB sFF8F.30DE
   mFF94.1.30E4.30E6 sFF96.30E8 mFF9C.1.30EF.30F3.3099.309A iFFA0
   mFFA1.1.1100.1101.11AA.1102.11AC.11AD.1103.1104.1105 sFFAA.11B0
   mFFB0.1.111A.1106.1107.1108.1121 sFFB5.1109 xFFBF sFFC2.1161 xFFC8 sFFCA.1167 xFFD0 sFFD2.116D
   xFFD8 sFFDA.1173 xFFDD mFFE0.1.A2.A3.AC mFFE3.2.20.304 mFFE4.1.A6.A5.20A9 xFFE7 mFFE8.1.2502
   sFFE9.2190 mFFED.1.25A0.25CB xFFEF v10000 x1000C v1000D x10027 v10028 x1003B v1003C x1003E
   v1003F x1004E v10050 x1005E v10080 x100FB v10100 x10103 v10107 x10134 v10137 x1018F v10190
   x1019D v101A0 x101A1 v101D0 x101FE v10280 x1029D v102A0 x102D1 v102E0 x102FC v10300 x10324
   v1032D x1034B v10350 x1037B v10380 x1039E v1039F x103C4 v103C8 x103D6 s10400.10428 v10428
   x1049E v104A0 x104AA s104B0.104D8 x104D4 v104D8 x104FC v10500 x10528 v10530 x10564 v1056F
   s10570.10597 x1057B s1057C.105A3 x1058B s1058C.105B3 x10593 m10594.1.105BB.105BC x10596 v10597
   x105A2 v105A3 x105B2 v105B3 x105BA v105BB x105BD v105C0 x105F4 v10600 x10737 v10740 x10756
   v10760 x10768 v10780 m10781.1.2D0.2D1.E6.299.253 x10786
   m10787.1.2A3.AB66.2A5.2A4.256.257.1D91.258.25E.2A9.264.262.260.29B.127.29C.267.284.2AA
   m1079A.1.2AB.26C.1DF04.A78E.26E.1DF05.28E.1DF06.F8.276.277.71.27A.1DF08.27D.27E.280.2A8
   m107AC.1.2A6.AB67.2A7.288.2C71 x107B1 m107B2.1.28F.2A1.2A2.298.1C0.1C1.1C2.1DF0A.1DF1E x107BB
   v10800 x10806 v10808 x10809 v1080A x10836 v10837 x10839 v1083C x1083D v1083F x10856 v10857
   x1089F v108A7 x108B0 v108E0 x108F3 v108F4 x108F6 v108FB x1091C v1091F x1093A v1093F x1095A
   v10980 x109B8 v109BC x109D0 v109D2 x10A04 v10A05 x10A07 v10A0C x10A14 v10A15 x10A18 v10A19
   x10A36 v10A38 x10A3B v10A3F x10A49 v10A50 x10A59 v10A60 x10AA0 v10AC0 x10AE7 v10AEB x10AF7
   v10B00 x10B36 v10B39 x10B56 v10B58 x10B73 v10B78 x10B92 v10B99 x10B9D v10BA9 x10BB0 v10C00
   x10C49 s10C80.10CC0 x10CB3 v10CC0 x10CF3 v10CFA x10D28 v10D30 x10D3A v10D40 s10D50.10D70
   x10D66 v10D69 x10D86 v10D8E x10D90 v10E60 x10E7F v10E80 x10EAA v10EAB x10EAE v10EB0 x10EB2
   v10EC2 x10EC8 v10ED0 x10ED9 v10EFA x10F28 v10F30 x10F5A v10F70 x10F8A v10FB0 x10FCC v10FE0
   x10FF7 v11000 x1104E v11052 x11076 v1107F x110BD v110BE x110C3 v110D0 x110E9 v110F0 x110FA
   v11100 x11135 v11136 x11148 v11150 x11177 v11180 x111E0 v111E1 x111F5 v11200 x11212 v11213
   x11242 v11280 x11287 v11288 x11289 v1128A x1128E v1128F x1129E v1129F x112AA v112B0 x112EB
   v112F0 x112FA v11300 x11304 v11305 x1130D v1130F x11311 v11313 x11329 v1132A x11331 v11332
   x11334 v11335 x1133A v1133B x11345 v11347 x11349 v1134B x1134E v11350 x11351 v11357 x11358
   v1135D x11364 v11366 x1136D v11370 x11375 v11380 x1138A v1138B x1138C v1138E x1138F v11390
   x113B6 v113B7 x113C1 v113C2 x113C3 v113C5 x113C6 v113C7 x113CB v113CC x113D6 v113D7 x113D9
   v113E1 x113E3 v11400 x1145C v1145D x11462 v11480 x114C8 v114D0 x114DA v11580 x115B6 v115B8
   x115DE v11600 x11645 v11650 x1165A v11660 x1166D v11680 x116BA v116C0 x116CA v116D0 x116E4
   v11700 x1171B v1171D x1172C v11730 x11747 v11800 x1183C s118A0.118C0 v118C0 x118F3 v118FF
   x11907 v11909 x1190A v1190C x11914 v11915 x11917 v11918 x11936 v11937 x11939 v1193B x11947
   v11950 x1195A v119A0 x119A8 v119AA x119D8 v119DA x119E5 v11A00 x11A48 v11A50 x11AA3 v11AB0
   x11AF9 v11B00 x11B0A v11B60 x11B68 v11BC0 x11BE2 v11BF0 x11BFA v11C00 x11C09 v11C0A x11C37
   v11C38 x11C46 v11C50 x11C6D v11C70 x11C90 v11C92 x11CA8 v11CA9 x11CB7 v11D00 x11D07 v11D08
   x11D0A v11D0B x11D37 v11D3A x11D3B v11D3C x11D3E v11D3F x11D48 v11D50 x11D5A v11D60 x11D66
   v11D67 x11D69 v11D6A x11D8F v11D90 x11D92 v11D93 x11D99 v11DA0 x11DAA v11DB0 x11DDC v11DE0
   x11DEA v11EE0 x11EF9 v11F00 x11F11 v11F12 x11F3B v11F3E x11F5B v11FB0 x11FB1 v11FC0 x11FF2
   v11FFF x1239A v12400 x1246F v12470 x12475 v12480 x12544 v12F90 x12FF3 v13000 x13430 v13440
   x13456 v13460 x143FB v14400 x14647 v16100 x1613A v16800 x16A39 v16A40 x16A5F v16A60 x16A6A
   v16A6E x16ABF v16AC0 x16ACA v16AD0 x16AEE v16AF0 x16AF6 v16B00 x16B46 v16B50 x16B5A v16B5B
   x16B62 v16B63 x16B78 v16B7D x16B90 v16D40 x16D7A s16E40.16E60 v16E60 x16E9B s16EA0.16EBB
   x16EB9 v16EBB x16ED4 v16F00 x16F4B v16F4F x16F88 v16F8F x16FA0 v16FE0 x16FE5 v16FF0 x16FF7
   v17000 x18CD6 v18CFF x18D1F v18D80 x18DF3 v1AFF0 x1AFF4 v1AFF5 x1AFFC v1AFFD x1AFFF v1B000
   x1B123 v1B132 x1B133 v1B150 x1B153 v1B155 x1B156 v1B164 x1B168 v1B170 x1B2FC v1BC00 x1BC6B
   v1BC70 x1BC7D v1BC80 x1BC89 v1BC90 x1BC9A v1BC9C i1BCA0 x1BCA4 v1CC00 s1CCD6.61 s1CCF0.30
   v1CCFA x1CCFD v1CD00 x1CEB4 v1CEBA x1CED1 v1CEE0 x1CEF1 v1CF00 x1CF2E v1CF30 x1CF47 v1CF50
   x1CFC4 v1D000 x1D0F6 v1D100 x1D127 v1D129 i1D173 v1D17B x1D1EB v1D200 x1D246 v1D2C0 x1D2D4
   v1D2E0 x1D2F4 v1D300 x1D357 v1D360 x1D379 s1D400.61 s1D41A.61 s1D434.61 s1D44E.61 x1D455
   s1D456.69 s1D468.61 s1D482.61 m1D49C.1.61 x1D49D m1D49E.1.63.64 x1D4A0 m1D4A2.1.67 x1D4A3
   m1D4A5.1.6A.6B x1D4A7 s1D4A9.6E x1D4AD s1D4AE.73 s1D4B6.61 x1D4BA m1D4BB.1.66 x1D4BC s1D4BD.68
   x1D4C4 s1D4C5.70 s1D4D0.61 s1D4EA.61 m1D504.1.61.62 x1D506 s1D507.64 x1D50B s1D50D.6A x1D515
   s1D516.73 x1D51D s1D51E.61 m1D538.1.61.62 x1D53A s1D53B.64 x1D53F s1D540.69 x1D545 m1D546.1.6F
   x1D547 s1D54A.73 x1D551 s1D552.61 s1D56C.61 s1D586.61 s1D5A0.61 s1D5BA.61 s1D5D4.61 s1D5EE.61
   s1D608.61 s1D622.61 s1D63C.61 s1D656.61 s1D670.61 s1D68A.61 m1D6A4.1.131.237 x1D6A6 s1D6A8.3B1
   m1D6B9.1.3B8 s1D6BA.3C3 m1D6C1.1.2207 s1D6C2.3B1 m1D6D3.1.3C3 s1D6D4.3C3
   m1D6DB.1.2202.3B5.3B8.3BA.3C6.3C1.3C0 s1D6E2.3B1 m1D6F3.1.3B8 s1D6F4.3C3 m1D6FB.1.2207
   s1D6FC.3B1 m1D70D.1.3C3 s1D70E.3C3 m1D715.1.2202.3B5.3B8.3BA.3C6.3C1.3C0 s1D71C.3B1
   m1D72D.1.3B8 s1D72E.3C3 m1D735.1.2207 s1D736.3B1 m1D747.1.3C3 s1D748.3C3
   m1D74F.1.2202.3B5.3B8.3BA.3C6.3C1.3C0 s1D756.3B1 m1D767.1.3B8 s1D768.3C3 m1D76F.1.2207
   s1D770.3B1 m1D781.1.3C3 s1D782.3C3 m1D789.1.2202.3B5.3B8.3BA.3C6.3C1.3C0 s1D790.3B1
   m1D7A1.1.3B8 s1D7A2.3C3 m1D7A9.1.2207 s1D7AA.3B1 m1D7BB.1.3C3 s1D7BC.3C3
   m1D7C3.1.2202.3B5.3B8.3BA.3C6.3C1.3C0.3DD.3DD x1D7CC s1D7CE.30 s1D7D8.30 s1D7E2.30 s1D7EC.30
   s1D7F6.30 v1D800 x1DA8C v1DA9B x1DAA0 v1DAA1 x1DAB0 v1DF00 x1DF1F v1DF25 x1DF2B v1E000 x1E007
   v1E008 x1E019 v1E01B x1E022 v1E023 x1E025 v1E026 x1E02B s1E030.430 s1E039.43A s1E03C.43E
   m1E047.1.44B.44D.44E.A689.4D9.456.458.4E9.4AF.4CF s1E051.430 m1E05A.1.43A.43B.43E.43F.441
   s1E05F.443 m1E065.1.44A.44B.491.456.455.45F.4AB.A651.4B1 x1E06E v1E08F x1E090 v1E100 x1E12D
   v1E130 x1E13E v1E140 x1E14A v1E14E x1E150 v1E290 x1E2AF v1E2C0 x1E2FA v1E2FF x1E300 v1E4D0
   x1E4FA v1E5D0 x1E5FB v1E5FF x1E600 v1E6C0 x1E6DF v1E6E0 x1E6F6 v1E6FE x1E700 v1E7E0 x1E7E7
   v1E7E8 x1E7EC v1E7ED x1E7EF v1E7F0 x1E7FF v1E800 x1E8C5 v1E8C7 x1E8D7 s1E900.1E922 v1E922
   x1E94C v1E950 x1E95A v1E95E x1E960 v1EC71 x1ECB5 v1ED01 x1ED3E m1EE00.1.627.628.62C.62F x1EE04
   m1EE05.1.648.632.62D.637.64A s1EE0A.643
   m1EE0E.1.633.639.641.635.642.631.634.62A.62B.62E.630.636.638.63A.66E.6BA.6A1.66F x1EE20
   m1EE21.1.628.62C x1EE23 m1EE24.1.647 x1EE25 m1EE27.1.62D x1EE28 m1EE29.1.64A s1EE2A.643
   m1EE2E.1.633.639.641.635.642 x1EE33 m1EE34.1.634.62A.62B.62E x1EE38 m1EE39.1.636 x1EE3A
   m1EE3B.1.63A x1EE3C m1EE42.1.62C x1EE43 m1EE47.1.62D x1EE48 m1EE49.1.64A x1EE4A m1EE4B.1.644
   x1EE4C m1EE4D.1.646.633.639 x1EE50 m1EE51.1.635.642 x1EE53 m1EE54.1.634 x1EE55 m1EE57.1.62E
   x1EE58 m1EE59.1.636 x1EE5A m1EE5B.1.63A x1EE5C m1EE5D.1.6BA x1EE5E m1EE5F.1.66F x1EE60
   m1EE61.1.628.62C x1EE63 m1EE64.1.647 x1EE65 m1EE67.1.62D.637.64A.643 x1EE6B
   m1EE6C.1.645.646.633.639.641.635.642 x1EE73 m1EE74.1.634.62A.62B.62E x1EE78
   m1EE79.1.636.638.63A.66E x1EE7D m1EE7E.1.6A1 x1EE7F
   m1EE80.1.627.628.62C.62F.647.648.632.62D.637.64A x1EE8A s1EE8B.644
   m1EE8E.1.633.639.641.635.642.631.634.62A.62B.62E.630.636.638.63A x1EE9C m1EEA1.1.628.62C.62F
   x1EEA4 m1EEA5.1.648.632.62D.637.64A x1EEAA s1EEAB.644
   m1EEAE.1.633.639.641.635.642.631.634.62A.62B.62E.630.636.638.63A x1EEBC v1EEF0 x1EEF2 v1F000
   x1F02C v1F030 x1F094 v1F0A0 x1F0AF v1F0B1 x1F0C0 v1F0C1 x1F0D0 v1F0D1 x1F0F6
   m1F101.2.30.2C.31.2C.32.2C.33.2C.34.2C.35.2C.36.2C.37.2C.38.2C.39.2C v1F10B
   m1F110.3.28.61.29.28.62.29.28.63.29.28.64.29.28.65.29.28.66.29.28.67.29.28.68.29
   m1F118.3.28.69.29.28.6A.29.28.6B.29.28.6C.29.28.6D.29.28.6E.29.28.6F.29.28.70.29
   m1F120.3.28.71.29.28.72.29.28.73.29.28.74.29.28.75.29.28.76.29.28.77.29.28.78.29
   m1F128.3.28.79.29.28.7A.29.3014.73.3015 m1F12B.1.63.72 m1F12D.2.63.64.77.7A v1F12F s1F130.61
   m1F14A.2.68.76.6D.76.73.64.73.73 m1F14E.3.70.70.76 m1F14F.2.77.63 v1F150
   m1F16A.2.6D.63.6D.64.6D.72 v1F16D m1F190.2.64.6A v1F191 x1F1AE v1F1E6
   m1F200.2.307B.304B.30B3.30B3 m1F202.1.30B5 x1F203
   m1F210.1.624B.5B57.53CC.30C7.4E8C.591A.89E3.5929.4EA4.6620.7121.6599.524D.5F8C.518D
   m1F21F.1.65B0.521D.7D42.751F.8CA9.58F0.5439.6F14.6295.6355.4E00.4E09.904A.5DE6.4E2D
   m1F22E.1.53F3.6307.8D70.6253.7981.7A7A.5408.6E80.6709.6708.7533.5272.55B6.914D x1F23C
   m1F240.3.3014.672C.3015.3014.4E09.3015.3014.4E8C.3015.3014.5B89.3015.3014.70B9.3015
   m1F245.3.3014.6253.3015.3014.76D7.3015.3014.52DD.3015.3014.6557.3015 x1F249 m1F250.1.5F97.53EF
   x1F252 v1F260 x1F266 v1F300 x1F6D9 v1F6DC x1F6ED v1F6F0 x1F6FD v1F700 x1F7DA v1F7E0 x1F7EC
   v1F7F0 x1F7F1 v1F800 x1F80C v1F810 x1F848 v1F850 x1F85A v1F860 x1F888 v1F890 x1F8AE v1F8B0
   x1F8BC v1F8C0 x1F8C2 v1F8D0 x1F8D9 v1F900 x1FA58 v1FA60 x1FA6E v1FA70 x1FA7D v1FA80 x1FA8B
   v1FA8E x1FAC7 v1FAC8 x1FAC9 v1FACD x1FADD v1FADF x1FAEB v1FAEF x1FAF9 v1FB00 x1FB93 v1FB94
   s1FBF0.30 v1FBFA x1FBFB v20000 x2A6E0 v2A700 x2B81E v2B820 x2CEAE v2CEB0 x2EBE1 v2EBF0 x2EE5E
   v2F800 x2FA1E v30000 x3134B v31350 x3347A iE0100 xE01F0"

def mappingTable : Text.RunTable := .ofText mappingText

/-- What stands for a character of the run, at the given place in it. -/
def mappingIn? (run : Text.Run) (place : Nat) : Option (List Nat) :=
  match run.letter with
  | 'v' => some [run.start + place]
  | 'i' => some []
  | 's' => run.numbers[0]?.map fun target => [target + place]
  | 'a' => some [run.start + place + 1 - place % 2]
  | 'm' => run.numbers[0]?.map fun width =>
      (run.numbers.extract (1 + place * width) (1 + place * width + width)).toList
  | _ => none

/-- What stands in a domain for a character; none if the character may not stand there. -/
def mapping? (c : Char) : Option (List Char) :=
  if c.toNat < 0x80 then some [c.toLower]
  else do
    let run ← mappingTable.find? c
    return (← mappingIn? run (c.toNat - run.start)).map Char.ofNat

/-- The form in which domains are compared; none if the text holds a character that may not stand in
one. -/
def fold? (s : List Char) : Option (List Char) :=
  (s.mapM mapping?).map fun parts => Text.composed parts.flatten

end RemoteDrive.Domain
