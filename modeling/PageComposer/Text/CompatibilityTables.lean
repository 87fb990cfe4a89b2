/-!
# Compatibility tables

How characters that can stand in names are taken apart into plainer ones, and which pairs of characters
are put together into one, as Unicode 14 has it. All code points are in hexadecimal.
-/

namespace PageComposer.Text.Compatibility

/-- Runs of characters, each with the first code point and what the characters from there on are taken
apart into. -/
def parts : List String :=
  ["aa=61|b5=3bc|ba=6f|c0=41+300 41+301 41+302 41+303 41+308 41+30a",
    "c7=43+327 45+300 45+301 45+302 45+308 49+300 49+301 49+302 49+308",
    "d1=4e+303 4f+300 4f+301 4f+302 4f+303 4f+308|d9=55+300 55+301 55+302 55+308 59+301",
    "e0=61+300 61+301 61+302 61+303 61+308 61+30a",
    "e7=63+327 65+300 65+301 65+302 65+308 69+300 69+301 69+302 69+308",
    "f1=6e+303 6f+300 6f+301 6f+302 6f+303 6f+308|f9=75+300 75+301 75+302 75+308 79+301",
    "ff=79+308 41+304 61+304 41+306 61+306 41+328 61+328 43+301 63+301 43+302 63+302 43+307",
    "10b=63+307 43+30c 63+30c 44+30c 64+30c",
    "112=45+304 65+304 45+306 65+306 45+307 65+307 45+328 65+328 45+30c 65+30c 47+302 67+302",
    "11e=47+306 67+306 47+307 67+307 47+327 67+327 48+302 68+302",
    "128=49+303 69+303 49+304 69+304 49+306 69+306 49+328 69+328 49+307",
    "132=49+4a 69+6a 4a+302 6a+302 4b+327 6b+327",
    "139=4c+301 6c+301 4c+327 6c+327 4c+30c 6c+30c 4c+b7 6c+b7",
    "143=4e+301 6e+301 4e+327 6e+327 4e+30c 6e+30c 2bc+6e",
    "14c=4f+304 6f+304 4f+306 6f+306 4f+30b 6f+30b",
    "154=52+301 72+301 52+327 72+327 52+30c 72+30c 53+301 73+301 53+302 73+302 53+327 73+327",
    "160=53+30c 73+30c 54+327 74+327 54+30c 74+30c",
    "168=55+303 75+303 55+304 75+304 55+306 75+306 55+30a 75+30a 55+30b 75+30b 55+328 75+328",
    "174=57+302 77+302 59+302 79+302 59+308 5a+301 7a+301 5a+307 7a+307 5a+30c 7a+30c 73",
    "1a0=4f+31b 6f+31b|1af=55+31b 75+31b",
    "1c4=44+5a+30c 44+7a+30c 64+7a+30c 4c+4a 4c+6a 6c+6a 4e+4a 4e+6a 6e+6a 41+30c 61+30c 49+30c",
    "1d0=69+30c 4f+30c 6f+30c 55+30c 75+30c 55+308+304 75+308+304 55+308+301 75+308+301",
    "1d9=55+308+30c 75+308+30c 55+308+300 75+308+300",
    "1de=41+308+304 61+308+304 41+307+304 61+307+304 c6+304 e6+304",
    "1e6=47+30c 67+30c 4b+30c 6b+30c 4f+328 6f+328 4f+328+304 6f+328+304 1b7+30c 292+30c 6a+30c",
    "1f1=44+5a 44+7a 64+7a 47+301 67+301",
    "1f8=4e+300 6e+300 41+30a+301 61+30a+301 c6+301 e6+301 d8+301 f8+301 41+30f 61+30f 41+311",
    "203=61+311 45+30f 65+30f 45+311 65+311 49+30f 69+30f 49+311 69+311 4f+30f 6f+30f 4f+311",
    "20f=6f+311 52+30f 72+30f 52+311 72+311 55+30f 75+30f 55+311 75+311 53+326 73+326 54+326",
    "21b=74+326|21e=48+30c 68+30c",
    "226=41+307 61+307 45+327 65+327 4f+308+304 6f+308+304 4f+303+304 6f+303+304 4f+307 6f+307",
    "230=4f+307+304 6f+307+304 59+304 79+304|2b0=68 266 6a 72 279 27b 281 77 79",
    "2e0=263 6c 73 78 295|340=300 301|343=313 308+301|374=2b9",
    "386=391+301 b7 395+301 397+301 399+301|38c=39f+301|38e=3a5+301 3a9+301 3b9+308+301",
    "3aa=399+308 3a5+308 3b1+301 3b5+301 3b7+301 3b9+301 3c5+308+301",
    "3ca=3b9+308 3c5+308 3bf+301 3c5+301 3c9+301|3d0=3b2 3b8 3a5 3a5+301 3a5+308 3c6 3c0",
    "3f0=3ba 3c1 3c2|3f4=398 3b5|3f9=3a3|400=415+300 415+308|403=413+301|407=406+308",
    "40c=41a+301 418+300 423+306|419=418+306|439=438+306|450=435+300 435+308|453=433+301",
    "457=456+308|45c=43a+301 438+300 443+306|476=474+30f 475+30f|4c1=416+306 436+306",
    "4d0=410+306 430+306 410+308 430+308|4d6=415+306 435+306",
    "4da=4d8+308 4d9+308 416+308 436+308 417+308 437+308",
    "4e2=418+304 438+304 418+308 438+308 41e+308 43e+308",
    "4ea=4e8+308 4e9+308 42d+308 44d+308 423+304 443+304 423+308 443+308 423+30b 443+30b",
    "4f4=427+308 447+308|4f8=42b+308 44b+308|587=565+582",
    "622=627+653 627+654 648+654 627+655 64a+654|675=627+674 648+674 6c7+674 64a+674",
    "6c0=6d5+654|6c2=6c1+654|6d3=6d2+654|929=928+93c|931=930+93c|934=933+93c",
    "958=915+93c 916+93c 917+93c 91c+93c 921+93c 922+93c 92b+93c 92f+93c|9cb=9c7+9be 9c7+9d7",
    "9dc=9a1+9bc 9a2+9bc|9df=9af+9bc|a33=a32+a3c|a36=a38+a3c|a59=a16+a3c a17+a3c a1c+a3c",
    "a5e=a2b+a3c|b48=b47+b56|b4b=b47+b3e b47+b57|b5c=b21+b3c b22+b3c|b94=b92+bd7",
    "bca=bc6+bbe bc7+bbe bc6+bd7|c48=c46+c56|cc0=cbf+cd5|cc7=cc6+cd5 cc6+cd6",
    "cca=cc6+cc2 cc6+cc2+cd5|d4a=d46+d3e d47+d3e d46+d57|dda=dd9+dca",
    "ddc=dd9+dcf dd9+dcf+dca dd9+ddf|e33=e4d+e32|eb3=ecd+eb2|edc=eab+e99 eab+ea1|f43=f42+fb7",
    "f4d=f4c+fb7|f52=f51+fb7|f57=f56+fb7|f5c=f5b+fb7|f69=f40+fb5|f73=f71+f72",
    "f75=f71+f74 fb2+f80 fb2+f71+f80 fb3+f80 fb3+f71+f80|f81=f71+f80|f93=f92+fb7|f9d=f9c+fb7",
    "fa2=fa1+fb7|fa7=fa6+fb7|fac=fab+fb7|fb9=f90+fb5|1026=1025+102e|10fc=10dc|1b06=1b05+1b35",
    "1b08=1b07+1b35|1b0a=1b09+1b35|1b0c=1b0b+1b35|1b0e=1b0d+1b35|1b12=1b11+1b35|1b3b=1b3a+1b35",
    "1b3d=1b3c+1b35|1b40=1b3e+1b35 1b3f+1b35|1b43=1b42+1b35|1d2c=41 c6 42",
    "1d30=44 45 18e 47 48 49 4a 4b 4c 4d 4e",
    "1d3c=4f 222 50 52 54 55 57 61 250 251 1d02 62 64 65 259 25b 25c 67",
    "1d4f=6b 6d 14b 6f 254 1d16 1d17 70 74 75 1d1d 26f 76 1d25 3b2 3b3 3b4 3c6 3c7 69 72 75 76",
    "1d66=3b2 3b3 3c1 3c6 3c7|1d78=43d",
    "1d9b=252 63 255 f0 25c 66 25f 261 265 268 269 26a 1d7b 29d 26d 1d85 29f 271 270 272 273",
    "1db0=274 275 278 282 283 1ab 289 28a 1d1c 28b 28c 7a 290 291 292 3b8",
    "1e00=41+325 61+325 42+307 62+307 42+323 62+323 42+331 62+331 43+327+301 63+327+301 44+307",
    "1e0b=64+307 44+323 64+323 44+331 64+331 44+327 64+327 44+32d 64+32d 45+304+300 65+304+300",
    "1e16=45+304+301 65+304+301 45+32d 65+32d 45+330 65+330 45+327+306 65+327+306 46+307 66+307",
    "1e20=47+304 67+304 48+307 68+307 48+323 68+323 48+308 68+308 48+327 68+327 48+32e 68+32e",
    "1e2c=49+330 69+330 49+308+301 69+308+301 4b+301 6b+301 4b+323 6b+323 4b+331 6b+331 4c+323",
    "1e37=6c+323 4c+323+304 6c+323+304 4c+331 6c+331 4c+32d 6c+32d 4d+301 6d+301 4d+307 6d+307",
    "1e42=4d+323 6d+323 4e+307 6e+307 4e+323 6e+323 4e+331 6e+331 4e+32d 6e+32d 4f+303+301",
    "1e4d=6f+303+301 4f+303+308 6f+303+308 4f+304+300 6f+304+300 4f+304+301 6f+304+301 50+301",
    "1e55=70+301 50+307 70+307 52+307 72+307 52+323 72+323 52+323+304 72+323+304 52+331 72+331",
    "1e60=53+307 73+307 53+323 73+323 53+301+307 73+301+307 53+30c+307 73+30c+307 53+323+307",
    "1e69=73+323+307 54+307 74+307 54+323 74+323 54+331 74+331 54+32d 74+32d 55+324 75+324",
    "1e74=55+330 75+330 55+32d 75+32d 55+303+301 75+303+301 55+304+308 75+304+308 56+303 76+303",
    "1e7e=56+323 76+323 57+300 77+300 57+301 77+301 57+308 77+308 57+307 77+307 57+323 77+323",
    "1e8a=58+307 78+307 58+308 78+308 59+307 79+307 5a+302 7a+302 5a+323 7a+323 5a+331 7a+331",
    "1e96=68+331 74+308 77+30a 79+30a 61+2be 73+307",
    "1ea0=41+323 61+323 41+309 61+309 41+302+301 61+302+301 41+302+300 61+302+300 41+302+309",
    "1ea9=61+302+309 41+302+303 61+302+303 41+323+302 61+323+302 41+306+301 61+306+301",
    "1eb0=41+306+300 61+306+300 41+306+309 61+306+309 41+306+303 61+306+303 41+323+306",
    "1eb7=61+323+306 45+323 65+323 45+309 65+309 45+303 65+303 45+302+301 65+302+301 45+302+300",
    "1ec1=65+302+300 45+302+309 65+302+309 45+302+303 65+302+303 45+323+302 65+323+302 49+309",
    "1ec9=69+309 49+323 69+323 4f+323 6f+323 4f+309 6f+309 4f+302+301 6f+302+301 4f+302+300",
    "1ed3=6f+302+300 4f+302+309 6f+302+309 4f+302+303 6f+302+303 4f+323+302 6f+323+302",
    "1eda=4f+31b+301 6f+31b+301 4f+31b+300 6f+31b+300 4f+31b+309 6f+31b+309 4f+31b+303",
    "1ee1=6f+31b+303 4f+31b+323 6f+31b+323 55+323 75+323 55+309 75+309 55+31b+301 75+31b+301",
    "1eea=55+31b+300 75+31b+300 55+31b+309 75+31b+309 55+31b+303 75+31b+303 55+31b+323",
    "1ef1=75+31b+323 59+300 79+300 59+323 79+323 59+309 79+309 59+303 79+303",
    "1f00=3b1+313 3b1+314 3b1+313+300 3b1+314+300 3b1+313+301 3b1+314+301 3b1+313+342",
    "1f07=3b1+314+342 391+313 391+314 391+313+300 391+314+300 391+313+301 391+314+301",
    "1f0e=391+313+342 391+314+342 3b5+313 3b5+314 3b5+313+300 3b5+314+300 3b5+313+301",
    "1f15=3b5+314+301|1f18=395+313 395+314 395+313+300 395+314+300 395+313+301 395+314+301",
    "1f20=3b7+313 3b7+314 3b7+313+300 3b7+314+300 3b7+313+301 3b7+314+301 3b7+313+342",
    "1f27=3b7+314+342 397+313 397+314 397+313+300 397+314+300 397+313+301 397+314+301",
    "1f2e=397+313+342 397+314+342 3b9+313 3b9+314 3b9+313+300 3b9+314+300 3b9+313+301",
    "1f35=3b9+314+301 3b9+313+342 3b9+314+342 399+313 399+314 399+313+300 399+314+300",
    "1f3c=399+313+301 399+314+301 399+313+342 399+314+342 3bf+313 3bf+314 3bf+313+300",
    "1f43=3bf+314+300 3bf+313+301 3bf+314+301",
    "1f48=39f+313 39f+314 39f+313+300 39f+314+300 39f+313+301 39f+314+301",
    "1f50=3c5+313 3c5+314 3c5+313+300 3c5+314+300 3c5+313+301 3c5+314+301 3c5+313+342",
    "1f57=3c5+314+342|1f59=3a5+314|1f5b=3a5+314+300|1f5d=3a5+314+301",
    "1f5f=3a5+314+342 3c9+313 3c9+314 3c9+313+300 3c9+314+300 3c9+313+301 3c9+314+301",
    "1f66=3c9+313+342 3c9+314+342 3a9+313 3a9+314 3a9+313+300 3a9+314+300 3a9+313+301",
    "1f6d=3a9+314+301 3a9+313+342 3a9+314+342 3b1+300 3b1+301 3b5+300 3b5+301 3b7+300 3b7+301",
    "1f76=3b9+300 3b9+301 3bf+300 3bf+301 3c5+300 3c5+301 3c9+300 3c9+301",
    "1f80=3b1+313+345 3b1+314+345 3b1+313+300+345 3b1+314+300+345 3b1+313+301+345",
    "1f85=3b1+314+301+345 3b1+313+342+345 3b1+314+342+345 391+313+345 391+314+345",
    "1f8a=391+313+300+345 391+314+300+345 391+313+301+345 391+314+301+345 391+313+342+345",
    "1f8f=391+314+342+345 3b7+313+345 3b7+314+345 3b7+313+300+345 3b7+314+300+345",
    "1f94=3b7+313+301+345 3b7+314+301+345 3b7+313+342+345 3b7+314+342+345 397+313+345",
    "1f99=397+314+345 397+313+300+345 397+314+300+345 397+313+301+345 397+314+301+345",
    "1f9e=397+313+342+345 397+314+342+345 3c9+313+345 3c9+314+345 3c9+313+300+345",
    "1fa3=3c9+314+300+345 3c9+313+301+345 3c9+314+301+345 3c9+313+342+345 3c9+314+342+345",
    "1fa8=3a9+313+345 3a9+314+345 3a9+313+300+345 3a9+314+300+345 3a9+313+301+345",
    "1fad=3a9+314+301+345 3a9+313+342+345 3a9+314+342+345 3b1+306 3b1+304 3b1+300+345 3b1+345",
    "1fb4=3b1+301+345|1fb6=3b1+342 3b1+342+345 391+306 391+304 391+300 391+301 391+345|1fbe=3b9",
    "1fc2=3b7+300+345 3b7+345 3b7+301+345",
    "1fc6=3b7+342 3b7+342+345 395+300 395+301 397+300 397+301 397+345",
    "1fd0=3b9+306 3b9+304 3b9+308+300 3b9+308+301",
    "1fd6=3b9+342 3b9+308+342 399+306 399+304 399+300 399+301",
    "1fe0=3c5+306 3c5+304 3c5+308+300 3c5+308+301 3c1+313 3c1+314 3c5+342 3c5+308+342 3a5+306",
    "1fe9=3a5+304 3a5+300 3a5+301 3a1+314|1ff2=3c9+300+345 3c9+345 3c9+301+345",
    "1ff6=3c9+342 3c9+342+345 39f+300 39f+301 3a9+300 3a9+301 3a9+345|2071=69|207f=6e",
    "2090=61 65 6f 78 259 68 6b 6c 6d 6e 70 73 74|2102=43|2107=190",
    "210a=67 48 48 48 68 127 49 49 4c 6c|2115=4e|2119=50 51 52 52 52|2124=5a|2126=3a9|2128=5a",
    "212a=4b 41+30a 42 43|212f=65 45 46|2133=4d 6f 5d0 5d1 5d2 5d3 69|213c=3c0 3b3 393 3a0",
    "2145=44 64 65 69 6a",
    "2160=49 49+49 49+49+49 49+56 56 56+49 56+49+49 56+49+49+49 49+58 58 58+49 58+49+49 4c 43",
    "216e=44 4d 69 69+69 69+69+69 69+76 76 76+69 76+69+69 76+69+69+69 69+78 78 78+69 78+69+69",
    "217c=6c 63 64 6d|2c7c=6a 56|2d6f=2d61|3038=5341 5344 5345|304c=304b+3099|304e=304d+3099",
    "3050=304f+3099|3052=3051+3099|3054=3053+3099|3056=3055+3099|3058=3057+3099|305a=3059+3099",
    "305c=305b+3099|305e=305d+3099|3060=305f+3099|3062=3061+3099|3065=3064+3099|3067=3066+3099",
    "3069=3068+3099|3070=306f+3099 306f+309a|3073=3072+3099 3072+309a|3076=3075+3099 3075+309a",
    "3079=3078+3099 3078+309a|307c=307b+3099 307b+309a|3094=3046+3099|309e=309d+3099 3088+308a",
    "30ac=30ab+3099|30ae=30ad+3099|30b0=30af+3099|30b2=30b1+3099|30b4=30b3+3099|30b6=30b5+3099",
    "30b8=30b7+3099|30ba=30b9+3099|30bc=30bb+3099|30be=30bd+3099|30c0=30bf+3099|30c2=30c1+3099",
    "30c5=30c4+3099|30c7=30c6+3099|30c9=30c8+3099|30d0=30cf+3099 30cf+309a",
    "30d3=30d2+3099 30d2+309a|30d6=30d5+3099 30d5+309a|30d9=30d8+3099 30d8+309a",
    "30dc=30db+3099 30db+309a|30f4=30a6+3099|30f7=30ef+3099 30f0+3099 30f1+3099 30f2+3099",
    "30fe=30fd+3099 30b3+30c8",
    "3131=1100 1101 11aa 1102 11ac 11ad 1103 1104 1105 11b0 11b1 11b2 11b3 11b4 11b5 111a 1106",
    "3142=1107 1108 1121 1109 110a 110b 110c 110d 110e 110f 1110 1111 1112 1161 1162 1163 1164",
    "3153=1165 1166 1167 1168 1169 116a 116b 116c 116d 116e 116f 1170 1171 1172 1173 1174 1175",
    "3164=1160 1114 1115 11c7 11c8 11cc 11ce 11d3 11d7 11d9 111c 11dd 11df 111d 111e 1120 1122",
    "3175=1123 1127 1129 112b 112c 112d 112e 112f 1132 1136 1140 1147 114c 11f1 11f2 1157 1158",
    "3186=1159 1184 1185 1188 1191 1192 1194 119e 11a1|a69c=44a 44c|a770=a76f|a7f2=43 46 51",
    "a7f8=126 153|ab5c=a727 ab37 26b ab52|ab69=28d",
    "f900=8c48 66f4 8eca 8cc8 6ed1 4e32 53e5 9f9c 9f9c 5951 91d1 5587 5948 61f6 7669 7f85 863f",
    "f911=87ba 88f8 908f 6a02 6d1b 70d9 73de 843d 916a 99f1 4e82 5375 6b04 721b 862d 9e1e 5d50",
    "f922=6feb 85cd 8964 62c9 81d8 881f 5eca 6717 6d6a 72fc 90ce 4f86 51b7 52de 64c4 6ad3 7210",
    "f933=76e7 8001 8606 865c 8def 9732 9b6f 9dfa 788c 797f 7da0 83c9 9304 9e7f 8ad6 58df 5f04",
    "f944=7c60 807e 7262 78ca 8cc2 96f7 58d8 5c62 6a13 6dda 6f0f 7d2f 7e37 964b 52d2 808b 51dc",
    "f955=51cc 7a1c 7dbe 83f1 9675 8b80 62cf 6a02 8afe 4e39 5be7 6012 7387 7570 5317 78fb 4fbf",
    "f966=5fa9 4e0d 6ccc 6578 7d22 53c3 585e 7701 8449 8aaa 6bba 8fb0 6c88 62fe 82e5 63a0 7565",
    "f977=4eae 5169 51c9 6881 7ce7 826f 8ad2 91cf 52f5 5442 5973 5eec 65c5 6ffe 792a 95ad 9a6a",
    "f988=9e97 9ece 529b 66c6 6b77 8f62 5e74 6190 6200 649a 6f23 7149 7489 79ca 7df4 806f 8f26",
    "f999=84ee 9023 934a 5217 52a3 54bd 70c8 88c2 8aaa 5ec9 5ff5 637b 6bae 7c3e 7375 4ee4 56f9",
    "f9aa=5be7 5dba 601c 73b2 7469 7f9a 8046 9234 96f6 9748 9818 4f8b 79ae 91b4 96b8 60e1 4e86",
    "f9bb=50da 5bee 5c3f 6599 6a02 71ce 7642 84fc 907c 9f8d 6688 962e 5289 677b 67f3 6d41 6e9c",
    "f9cc=7409 7559 786b 7d10 985e 516d 622e 9678 502b 5d19 6dea 8f2a 5f8b 6144 6817 7387 9686",
    "f9dd=5229 540f 5c65 6613 674e 68a8 6ce5 7406 75e2 7f79 88cf 88e1 91cc 96e2 533f 6eba 541d",
    "f9ee=71d0 7498 85fa 96a3 9c57 9e9f 6797 6dcb 81e8 7acb 7b20 7c92 72c0 7099 8b58 4ec0 8336",
    "f9ff=523a 5207 5ea6 62d3 7cd6 5b85 6d1e 66b4 8f3b 884c 964d 898b 5ed3 5140 55c0|fa10=585a",
    "fa12=6674|fa15=51de 732a 76ca 793c 795e 7965 798f 9756 7cbe 7fbd|fa20=8612|fa22=8af8",
    "fa25=9038 90fd",
    "fa2a=98ef 98fc 9928 9db4 90de 96b7 4fae 50e7 514d 52c9 52e4 5351 559d 5606 5668 5840 58a8",
    "fa3b=5c64 5c6e 6094 6168 618e 61f2 654f 65e2 6691 6885 6d77 6e1a 6f22 716e 722b 7422 7891",
    "fa4c=793e 7949 7948 7950 7956 795d 798d 798e 7a40 7a81 7bc0 7df4 7e09 7e41 7f72 8005 81ed",
    "fa5d=8279 8279 8457 8910 8996 8b01 8b39 8cd3 8d08 8fb6 9038 96e3 97ff 983b 6075 242ee 8218",
    "fa70=4e26 51b5 5168 4f80 5145 5180 52c7 52fa 559d 5555 5599 55e2 585a 58b3 5944 5954 5a62",
    "fa81=5b28 5ed2 5ed9 5f69 5fad 60d8 614e 6108 618e 6160 61f2 6234 63c4 641c 6452 6556 6674",
    "fa92=6717 671b 6756 6b79 6bba 6d41 6edb 6ecb 6f22 701e 716e 77a7 7235 72af 732a 7471 7506",
    "faa3=753b 761d 761f 76ca 76db 76f4 774a 7740 78cc 7ab1 7bc0 7c7b 7d5b 7df4 7f3e 8005 8352",
    "fab4=83ef 8779 8941 8986 8996 8abf 8af8 8acb 8b01 8afe 8aed 8b39 8b8a 8d08 8f38 9072 9199",
    "fac5=9276 967c 96e3 9756 97db 97ff 980b 983b 9b12 9f9c 2284a 22844 233d5 3b9d 4018 4039",
    "fad5=25249 25cd0 27ed3 9f43 9f8e|fb00=66+66 66+69 66+6c 66+66+69 66+66+6c 73+74 73+74",
    "fb13=574+576 574+565 574+56b 57e+576 574+56d|fb1d=5d9+5b4",
    "fb1f=5f2+5b7 5e2 5d0 5d3 5d4 5db 5dc 5dd 5e8 5ea",
    "fb2a=5e9+5c1 5e9+5c2 5e9+5bc+5c1 5e9+5bc+5c2 5d0+5b7 5d0+5b8 5d0+5bc 5d1+5bc 5d2+5bc",
    "fb33=5d3+5bc 5d4+5bc 5d5+5bc 5d6+5bc|fb38=5d8+5bc 5d9+5bc 5da+5bc 5db+5bc 5dc+5bc",
    "fb3e=5de+5bc|fb40=5e0+5bc 5e1+5bc|fb43=5e3+5bc 5e4+5bc",
    "fb46=5e6+5bc 5e7+5bc 5e8+5bc 5e9+5bc 5ea+5bc 5d5+5b9 5d1+5bf 5db+5bf 5e4+5bf 5d0+5dc 671",
    "fb51=671 67b 67b 67b 67b 67e 67e 67e 67e 680 680 680 680 67a 67a 67a 67a 67f 67f 67f 67f",
    "fb66=679 679 679 679 6a4 6a4 6a4 6a4 6a6 6a6 6a6 6a6 684 684 684 684 683 683 683 683 686",
    "fb7b=686 686 686 687 687 687 687 68d 68d 68c 68c 68e 68e 688 688 698 698 691 691 6a9 6a9",
    "fb90=6a9 6a9 6af 6af 6af 6af 6b3 6b3 6b3 6b3 6b1 6b1 6b1 6b1 6ba 6ba 6bb 6bb 6bb 6bb",
    "fba4=6d5+654 6d5+654 6c1 6c1 6c1 6c1 6be 6be 6be 6be 6d2 6d2 6d2+654 6d2+654",
    "fbd3=6ad 6ad 6ad 6ad 6c7 6c7 6c6 6c6 6c8 6c8 6c7+674 6cb 6cb 6c5 6c5 6c9 6c9 6d0 6d0 6d0",
    "fbe7=6d0 649 649 64a+654+627 64a+654+627 64a+654+6d5 64a+654+6d5 64a+654+648 64a+654+648",
    "fbf0=64a+654+6c7 64a+654+6c7 64a+654+6c6 64a+654+6c6 64a+654+6c8 64a+654+6c8 64a+654+6d0",
    "fbf7=64a+654+6d0 64a+654+6d0 64a+654+649 64a+654+649 64a+654+649 6cc 6cc 6cc 6cc",
    "fc00=64a+654+62c 64a+654+62d 64a+654+645 64a+654+649 64a+654+64a 628+62c 628+62d 628+62e",
    "fc08=628+645 628+649 628+64a 62a+62c 62a+62d 62a+62e 62a+645 62a+649 62a+64a 62b+62c",
    "fc12=62b+645 62b+649 62b+64a 62c+62d 62c+645 62d+62c 62d+645 62e+62c 62e+62d 62e+645",
    "fc1c=633+62c 633+62d 633+62e 633+645 635+62d 635+645 636+62c 636+62d 636+62e 636+645",
    "fc26=637+62d 637+645 638+645 639+62c 639+645 63a+62c 63a+645 641+62c 641+62d 641+62e",
    "fc30=641+645 641+649 641+64a 642+62d 642+645 642+649 642+64a 643+627 643+62c 643+62d",
    "fc3a=643+62e 643+644 643+645 643+649 643+64a 644+62c 644+62d 644+62e 644+645 644+649",
    "fc44=644+64a 645+62c 645+62d 645+62e 645+645 645+649 645+64a 646+62c 646+62d 646+62e",
    "fc4e=646+645 646+649 646+64a 647+62c 647+645 647+649 647+64a 64a+62c 64a+62d 64a+62e",
    "fc58=64a+645 64a+649 64a+64a 630+670 631+670 649+670",
    "fc64=64a+654+631 64a+654+632 64a+654+645 64a+654+646 64a+654+649 64a+654+64a 628+631",
    "fc6b=628+632 628+645 628+646 628+649 628+64a 62a+631 62a+632 62a+645 62a+646 62a+649",
    "fc75=62a+64a 62b+631 62b+632 62b+645 62b+646 62b+649 62b+64a 641+649 641+64a 642+649",
    "fc7f=642+64a 643+627 643+644 643+645 643+649 643+64a 644+645 644+649 644+64a 645+627",
    "fc89=645+645 646+631 646+632 646+645 646+646 646+649 646+64a 649+670 64a+631 64a+632",
    "fc93=64a+645 64a+646 64a+649 64a+64a 64a+654+62c 64a+654+62d 64a+654+62e 64a+654+645",
    "fc9b=64a+654+647 628+62c 628+62d 628+62e 628+645 628+647 62a+62c 62a+62d 62a+62e 62a+645",
    "fca5=62a+647 62b+645 62c+62d 62c+645 62d+62c 62d+645 62e+62c 62e+645 633+62c 633+62d",
    "fcaf=633+62e 633+645 635+62d 635+62e 635+645 636+62c 636+62d 636+62e 636+645 637+62d",
    "fcb9=638+645 639+62c 639+645 63a+62c 63a+645 641+62c 641+62d 641+62e 641+645 642+62d",
    "fcc3=642+645 643+62c 643+62d 643+62e 643+644 643+645 644+62c 644+62d 644+62e 644+645",
    "fccd=644+647 645+62c 645+62d 645+62e 645+645 646+62c 646+62d 646+62e 646+645 646+647",
    "fcd7=647+62c 647+645 647+670 64a+62c 64a+62d 64a+62e 64a+645 64a+647 64a+654+645",
    "fce0=64a+654+647 628+645 628+647 62a+645 62a+647 62b+645 62b+647 633+645 633+647 634+645",
    "fcea=634+647 643+644 643+645 644+645 646+645 646+647 64a+645 64a+647 640+64e+651",
    "fcf3=640+64f+651 640+650+651 637+649 637+64a 639+649 639+64a 63a+649 63a+64a 633+649",
    "fcfc=633+64a 634+649 634+64a 62d+649 62d+64a 62c+649 62c+64a 62e+649 62e+64a 635+649",
    "fd06=635+64a 636+649 636+64a 634+62c 634+62d 634+62e 634+645 634+631 633+631 635+631",
    "fd10=636+631 637+649 637+64a 639+649 639+64a 63a+649 63a+64a 633+649 633+64a 634+649",
    "fd1a=634+64a 62d+649 62d+64a 62c+649 62c+64a 62e+649 62e+64a 635+649 635+64a 636+649",
    "fd24=636+64a 634+62c 634+62d 634+62e 634+645 634+631 633+631 635+631 636+631 634+62c",
    "fd2e=634+62d 634+62e 634+645 633+647 634+647 637+645 633+62c 633+62d 633+62e 634+62c",
    "fd38=634+62d 634+62e 637+645 638+645 627+64b 627+64b",
    "fd50=62a+62c+645 62a+62d+62c 62a+62d+62c 62a+62d+645 62a+62e+645 62a+645+62c 62a+645+62d",
    "fd57=62a+645+62e 62c+645+62d 62c+645+62d 62d+645+64a 62d+645+649 633+62d+62c 633+62c+62d",
    "fd5e=633+62c+649 633+645+62d 633+645+62d 633+645+62c 633+645+645 633+645+645 635+62d+62d",
    "fd65=635+62d+62d 635+645+645 634+62d+645 634+62d+645 634+62c+64a 634+645+62e 634+645+62e",
    "fd6c=634+645+645 634+645+645 636+62d+649 636+62e+645 636+62e+645 637+645+62d 637+645+62d",
    "fd73=637+645+645 637+645+64a 639+62c+645 639+645+645 639+645+645 639+645+649 63a+645+645",
    "fd7a=63a+645+64a 63a+645+649 641+62e+645 641+62e+645 642+645+62d 642+645+645 644+62d+645",
    "fd81=644+62d+64a 644+62d+649 644+62c+62c 644+62c+62c 644+62e+645 644+62e+645 644+645+62d",
    "fd88=644+645+62d 645+62d+62c 645+62d+645 645+62d+64a 645+62c+62d 645+62c+645 645+62e+62c",
    "fd8f=645+62e+645",
    "fd92=645+62c+62e 647+645+62c 647+645+645 646+62d+645 646+62d+649 646+62c+645 646+62c+645",
    "fd99=646+62c+649 646+645+64a 646+645+649 64a+645+645 64a+645+645 628+62e+64a 62a+62c+64a",
    "fda0=62a+62c+649 62a+62e+64a 62a+62e+649 62a+645+64a 62a+645+649 62c+645+64a 62c+62d+649",
    "fda7=62c+645+649 633+62e+649 635+62d+64a 634+62d+64a 636+62d+64a 644+62c+64a 644+645+64a",
    "fdae=64a+62d+64a 64a+62c+64a 64a+645+64a 645+645+64a 642+645+64a 646+62d+64a 642+645+62d",
    "fdb5=644+62d+645 639+645+64a 643+645+64a 646+62c+62d 645+62e+64a 644+62c+645 643+645+645",
    "fdbc=644+62c+645 646+62c+62d 62c+62d+64a 62d+62c+64a 645+62c+64a 641+645+64a 628+62d+64a",
    "fdc3=643+645+645 639+62c+645 635+645+645 633+62e+64a 646+62c+64a",
    "fdf0=635+644+6d2 642+644+6d2 627+644+644+647 627+643+628+631 645+62d+645+62f",
    "fdf5=635+644+639+645 631+633+648+644 639+644+64a+647 648+633+644+645 635+644+649",
    "fe33=5f 5f|fe4d=5f 5f 5f|fe71=640+64b|fe77=640+64e|fe79=640+64f|fe7b=640+650|fe7d=640+651",
    "fe7f=640+652 621 627+653 627+653 627+654 627+654 648+654 648+654 627+655 627+655 64a+654",
    "fe8a=64a+654 64a+654 64a+654 627 627 628 628 628 628 629 629 62a 62a 62a 62a 62b 62b 62b",
    "fe9c=62b 62c 62c 62c 62c 62d 62d 62d 62d 62e 62e 62e 62e 62f 62f 630 630 631 631 632 632",
    "feb1=633 633 633 633 634 634 634 634 635 635 635 635 636 636 636 636 637 637 637 637 638",
    "fec6=638 638 638 639 639 639 639 63a 63a 63a 63a 641 641 641 641 642 642 642 642 643 643",
    "fedb=643 643 644 644 644 644 645 645 645 645 646 646 646 646 647 647 647 647 648 648 649",
    "fef0=649 64a 64a 64a 64a 644+627+653 644+627+653 644+627+654 644+627+654 644+627+655",
    "fefa=644+627+655 644+627 644+627|ff10=30 31 32 33 34 35 36 37 38 39",
    "ff21=41 42 43 44 45 46 47 48 49 4a 4b 4c 4d 4e 4f 50 51 52 53 54 55 56 57 58 59 5a|ff3f=5f",
    "ff41=61 62 63 64 65 66 67 68 69 6a 6b 6c 6d 6e 6f 70 71 72 73 74 75 76 77 78 79 7a",
    "ff66=30f2 30a1 30a3 30a5 30a7 30a9 30e3 30e5 30e7 30c3 30fc 30a2 30a4 30a6 30a8 30aa 30ab",
    "ff77=30ad 30af 30b1 30b3 30b5 30b7 30b9 30bb 30bd 30bf 30c1 30c4 30c6 30c8 30ca 30cb 30cc",
    "ff88=30cd 30ce 30cf 30d2 30d5 30d8 30db 30de 30df 30e0 30e1 30e2 30e4 30e6 30e8 30e9 30ea",
    "ff99=30eb 30ec 30ed 30ef 30f3 3099 309a 1160 1100 1101 11aa 1102 11ac 11ad 1103 1104 1105",
    "ffaa=11b0 11b1 11b2 11b3 11b4 11b5 111a 1106 1107 1108 1121 1109 110a 110b 110c 110d 110e",
    "ffbb=110f 1110 1111 1112|ffc2=1161 1162 1163 1164 1165 1166",
    "ffca=1167 1168 1169 116a 116b 116c|ffd2=116d 116e 116f 1170 1171 1172|ffda=1173 1174 1175",
    "10781=2d0 2d1 e6 299 253",
    "10787=2a3 ab66 2a5 2a4 256 257 1d91 258 25e 2a9 264 262 260 29b 127 29c 267 284 2aa 2ab",
    "1079b=26c 1df04 a78e 26e 1df05 28e 1df06 f8 276 277 71 27a 1df08 27d 27e 280 2a8 2a6 ab67",
    "107ae=2a7 288 2c71|107b2=28f 2a1 2a2 298 1c0 1c1 1c2 1df0a 1df1e|1109a=11099+110ba",
    "1109c=1109b+110ba|110ab=110a5+110ba|1112e=11131+11127 11132+11127",
    "1134b=11347+1133e 11347+11357|114bb=114b9+114ba 114b9+114b0|114be=114b9+114bd",
    "115ba=115b8+115af 115b9+115af|11938=11935+11930",
    "1d400=41 42 43 44 45 46 47 48 49 4a 4b 4c 4d 4e 4f 50 51 52 53 54 55 56 57 58 59 5a 61 62",
    "1d41c=63 64 65 66 67 68 69 6a 6b 6c 6d 6e 6f 70 71 72 73 74 75 76 77 78 79 7a 41 42 43 44",
    "1d438=45 46 47 48 49 4a 4b 4c 4d 4e 4f 50 51 52 53 54 55 56 57 58 59 5a 61 62 63 64 65 66",
    "1d454=67",
    "1d456=69 6a 6b 6c 6d 6e 6f 70 71 72 73 74 75 76 77 78 79 7a 41 42 43 44 45 46 47 48 49 4a",
    "1d472=4b 4c 4d 4e 4f 50 51 52 53 54 55 56 57 58 59 5a 61 62 63 64 65 66 67 68 69 6a 6b 6c",
    "1d48e=6d 6e 6f 70 71 72 73 74 75 76 77 78 79 7a 41|1d49e=43 44|1d4a2=47|1d4a5=4a 4b",
    "1d4a9=4e 4f 50 51|1d4ae=53 54 55 56 57 58 59 5a 61 62 63 64|1d4bb=66",
    "1d4bd=68 69 6a 6b 6c 6d 6e",
    "1d4c5=70 71 72 73 74 75 76 77 78 79 7a 41 42 43 44 45 46 47 48 49 4a 4b 4c 4d 4e 4f 50 51",
    "1d4e1=52 53 54 55 56 57 58 59 5a 61 62 63 64 65 66 67 68 69 6a 6b 6c 6d 6e 6f 70 71 72 73",
    "1d4fd=74 75 76 77 78 79 7a 41 42|1d507=44 45 46 47|1d50d=4a 4b 4c 4d 4e 4f 50 51",
    "1d516=53 54 55 56 57 58 59",
    "1d51e=61 62 63 64 65 66 67 68 69 6a 6b 6c 6d 6e 6f 70 71 72 73 74 75 76 77 78 79 7a 41 42",
    "1d53b=44 45 46 47|1d540=49 4a 4b 4c 4d|1d546=4f|1d54a=53 54 55 56 57 58 59",
    "1d552=61 62 63 64 65 66 67 68 69 6a 6b 6c 6d 6e 6f 70 71 72 73 74 75 76 77 78 79 7a 41 42",
    "1d56e=43 44 45 46 47 48 49 4a 4b 4c 4d 4e 4f 50 51 52 53 54 55 56 57 58 59 5a 61 62 63 64",
    "1d58a=65 66 67 68 69 6a 6b 6c 6d 6e 6f 70 71 72 73 74 75 76 77 78 79 7a 41 42 43 44 45 46",
    "1d5a6=47 48 49 4a 4b 4c 4d 4e 4f 50 51 52 53 54 55 56 57 58 59 5a 61 62 63 64 65 66 67 68",
    "1d5c2=69 6a 6b 6c 6d 6e 6f 70 71 72 73 74 75 76 77 78 79 7a 41 42 43 44 45 46 47 48 49 4a",
    "1d5de=4b 4c 4d 4e 4f 50 51 52 53 54 55 56 57 58 59 5a 61 62 63 64 65 66 67 68 69 6a 6b 6c",
    "1d5fa=6d 6e 6f 70 71 72 73 74 75 76 77 78 79 7a 41 42 43 44 45 46 47 48 49 4a 4b 4c 4d 4e",
    "1d616=4f 50 51 52 53 54 55 56 57 58 59 5a 61 62 63 64 65 66 67 68 69 6a 6b 6c 6d 6e 6f 70",
    "1d632=71 72 73 74 75 76 77 78 79 7a 41 42 43 44 45 46 47 48 49 4a 4b 4c 4d 4e 4f 50 51 52",
    "1d64e=53 54 55 56 57 58 59 5a 61 62 63 64 65 66 67 68 69 6a 6b 6c 6d 6e 6f 70 71 72 73 74",
    "1d66a=75 76 77 78 79 7a 41 42 43 44 45 46 47 48 49 4a 4b 4c 4d 4e 4f 50 51 52 53 54 55 56",
    "1d686=57 58 59 5a 61 62 63 64 65 66 67 68 69 6a 6b 6c 6d 6e 6f 70 71 72 73 74 75 76 77 78",
    "1d6a2=79 7a 131 237",
    "1d6a8=391 392 393 394 395 396 397 398 399 39a 39b 39c 39d 39e 39f 3a0 3a1 398 3a3 3a4 3a5",
    "1d6bd=3a6 3a7 3a8 3a9",
    "1d6c2=3b1 3b2 3b3 3b4 3b5 3b6 3b7 3b8 3b9 3ba 3bb 3bc 3bd 3be 3bf 3c0 3c1 3c2 3c3 3c4 3c5",
    "1d6d7=3c6 3c7 3c8 3c9",
    "1d6dc=3b5 3b8 3ba 3c6 3c1 3c0 391 392 393 394 395 396 397 398 399 39a 39b 39c 39d 39e 39f",
    "1d6f1=3a0 3a1 398 3a3 3a4 3a5 3a6 3a7 3a8 3a9",
    "1d6fc=3b1 3b2 3b3 3b4 3b5 3b6 3b7 3b8 3b9 3ba 3bb 3bc 3bd 3be 3bf 3c0 3c1 3c2 3c3 3c4 3c5",
    "1d711=3c6 3c7 3c8 3c9",
    "1d716=3b5 3b8 3ba 3c6 3c1 3c0 391 392 393 394 395 396 397 398 399 39a 39b 39c 39d 39e 39f",
    "1d72b=3a0 3a1 398 3a3 3a4 3a5 3a6 3a7 3a8 3a9",
    "1d736=3b1 3b2 3b3 3b4 3b5 3b6 3b7 3b8 3b9 3ba 3bb 3bc 3bd 3be 3bf 3c0 3c1 3c2 3c3 3c4 3c5",
    "1d74b=3c6 3c7 3c8 3c9",
    "1d750=3b5 3b8 3ba 3c6 3c1 3c0 391 392 393 394 395 396 397 398 399 39a 39b 39c 39d 39e 39f",
    "1d765=3a0 3a1 398 3a3 3a4 3a5 3a6 3a7 3a8 3a9",
    "1d770=3b1 3b2 3b3 3b4 3b5 3b6 3b7 3b8 3b9 3ba 3bb 3bc 3bd 3be 3bf 3c0 3c1 3c2 3c3 3c4 3c5",
    "1d785=3c6 3c7 3c8 3c9",
    "1d78a=3b5 3b8 3ba 3c6 3c1 3c0 391 392 393 394 395 396 397 398 399 39a 39b 39c 39d 39e 39f",
    "1d79f=3a0 3a1 398 3a3 3a4 3a5 3a6 3a7 3a8 3a9",
    "1d7aa=3b1 3b2 3b3 3b4 3b5 3b6 3b7 3b8 3b9 3ba 3bb 3bc 3bd 3be 3bf 3c0 3c1 3c2 3c3 3c4 3c5",
    "1d7bf=3c6 3c7 3c8 3c9|1d7c4=3b5 3b8 3ba 3c6 3c1 3c0 3dc 3dd",
    "1d7ce=30 31 32 33 34 35 36 37 38 39 30 31 32 33 34 35 36 37 38 39 30 31 32 33 34 35 36 37",
    "1d7ea=38 39 30 31 32 33 34 35 36 37 38 39 30 31 32 33 34 35 36 37 38 39",
    "1ee00=627 628 62c 62f",
    "1ee05=648 632 62d 637 64a 643 644 645 646 633 639 641 635 642 631 634 62a 62b 62e 630 636",
    "1ee1a=638 63a 66e 6ba 6a1 66f|1ee21=628 62c|1ee24=647|1ee27=62d",
    "1ee29=64a 643 644 645 646 633 639 641 635 642|1ee34=634 62a 62b 62e|1ee39=636|1ee3b=63a",
    "1ee42=62c|1ee47=62d|1ee49=64a|1ee4b=644|1ee4d=646 633 639|1ee51=635 642|1ee54=634",
    "1ee57=62e|1ee59=636|1ee5b=63a|1ee5d=6ba|1ee5f=66f|1ee61=628 62c|1ee64=647",
    "1ee67=62d 637 64a 643|1ee6c=645 646 633 639 641 635 642|1ee74=634 62a 62b 62e",
    "1ee79=636 638 63a 66e|1ee7e=6a1|1ee80=627 628 62c 62f 647 648 632 62d 637 64a",
    "1ee8b=644 645 646 633 639 641 635 642 631 634 62a 62b 62e 630 636 638 63a",
    "1eea1=628 62c 62f|1eea5=648 632 62d 637 64a",
    "1eeab=644 645 646 633 639 641 635 642 631 634 62a 62b 62e 630 636 638 63a",
    "1fbf0=30 31 32 33 34 35 36 37 38 39",
    "2f800=4e3d 4e38 4e41 20122 4f60 4fae 4fbb 5002 507a 5099 50e7 50cf 349e 2063a 514d 5154",
    "2f810=5164 5177 2051c 34b9 5167 518d 2054b 5197 51a4 4ecc 51ac 51b5 291df 51f5 5203 34df",
    "2f820=523b 5246 5272 5277 3515 52c7 52c9 52e4 52fa 5305 5306 5317 5349 5351 535a 5373 537d",
    "2f831=537f 537f 537f 20a2c 7070 53ca 53df 20b63 53eb 53f1 5406 549e 5438 5448 5468 54a2",
    "2f841=54f6 5510 5553 5563 5584 5584 5599 55ab 55b3 55c2 5716 5606 5717 5651 5674 5207 58ee",
    "2f852=57ce 57f4 580d 578b 5832 5831 58ac 214e4 58f2 58f7 5906 591a 5922 5962 216a8 216ea",
    "2f862=59ec 5a1b 5a27 59d8 5a66 36ee 36fc 5b08 5b3e 5b3e 219c8 5bc3 5bd8 5be7 5bf3 21b18",
    "2f872=5bff 5c06 5f53 5c22 3781 5c60 5c6e 5cc0 5c8d 21de4 5d43 21de6 5d6e 5d6b 5d7c 5de1",
    "2f882=5de2 382f 5dfd 5e28 5e3d 5e69 3862 22183 387c 5eb0 5eb3 5eb6 5eca 2a392 5efe 22331",
    "2f892=22331 8201 5f22 5f22 38c7 232b8 261da 5f62 5f6b 38e3 5f9a 5fcd 5fd7 5ff9 6081 393a",
    "2f8a2=391c 6094 226d4 60c7 6148 614c 614e 614c 617a 618e 61b2 61a4 61af 61de 61f2 61f6",
    "2f8b2=6210 621b 625d 62b1 62d4 6350 22b0c 633d 62fc 6368 6383 63e4 22bf1 6422 63c5 63a9",
    "2f8c2=3a2e 6469 647e 649d 6477 3a6c 654f 656c 2300a 65e3 66f8 6649 3b19 6691 3b08 3ae4",
    "2f8d2=5192 5195 6700 669c 80ad 43d9 6717 671b 6721 675e 6753 233c3 3b49 67fa 6785 6852",
    "2f8e2=6885 2346d 688e 681f 6914 3b9d 6942 69a3 69ea 6aa8 236a3 6adb 3c18 6b21 238a7 6b54",
    "2f8f2=3c4e 6b72 6b9f 6bba 6bbb 23a8d 21d0b 23afa 6c4e 23cbc 6cbf 6ccd 6c67 6d16 6d3e 6d77",
    "2f902=6d41 6d69 6d78 6d85 23d1e 6d34 6e2f 6e6e 3d33 6ecb 6ec7 23ed1 6df9 6f6e 23f5e 23f8e",
    "2f912=6fc6 7039 701e 701b 3d96 704a 707d 7077 70ad 20525 7145 24263 719c 243ab 7228 7235",
    "2f922=7250 24608 7280 7295 24735 24814 737a 738b 3eac 73a5 3eb8 3eb8 7447 745c 7471 7485",
    "2f932=74ca 3f1b 7524 24c36 753e 24c92 7570 2219f 7610 24fa1 24fb8 25044 3ffc 4008 76f4",
    "2f941=250f3 250f2 25119 25133 771e 771f 771f 774a 4039 778b 4046 4096 2541d 784e 788c 78cc",
    "2f951=40e3 25626 7956 2569a 256c5 798f 79eb 412f 7a40 7a4a 7a4f 2597c 25aa7 25aa7 7aee",
    "2f960=4202 25bab 7bc6 7bc9 4227 25c80 7cd2 42a0 7ce8 7ce3 7d00 25f86 7d63 4301 7dc7 7e02",
    "2f970=7e45 4334 26228 26247 4359 262d9 7f7a 2633e 7f95 7ffa 8005 264da 26523 8060 265a8",
    "2f97f=8070 2335f 43d5 80b2 8103 440b 813e 5ab5 267a7 267b5 23393 2339c 8201 8204 8f9e 446b",
    "2f98f=8291 828b 829d 52b3 82b1 82b3 82bd 82e6 26b3c 82e5 831d 8363 83ad 8323 83bd 83e7",
    "2f99f=8457 8353 83ca 83cc 83dc 26c36 26d6b 26cd5 452b 84f1 84f3 8516 273ca 8564 26f2c 455d",
    "2f9af=4561 26fb1 270d2 456b 8650 865c 8667 8669 86a9 8688 870e 86e2 8779 8728 876b 8786",
    "2f9bf=45d7 87e1 8801 45f9 8860 8863 27667 88d7 88de 4635 88fa 34bb 278ae 27966 46be 46c7",
    "2f9cf=8aa0 8aed 8b8a 8c55 27ca8 8cab 8cc1 8d1b 8d77 27f2f 20804 8dcb 8dbc 8df0 208de 8ed4",
    "2f9df=8f38 285d2 285ed 9094 90f1 9111 2872e 911b 9238 92d7 92d8 927c 93f9 9415 28bfa 958b",
    "2f9ef=4995 95b7 28d77 49e6 96c3 5db2 9723 29145 2921a 4a6e 4a76 97e0 2940a 4ab2 29496 980b",
    "2f9ff=980b 9829 295b6 98e2 4b33 9929 99a7 99c2 99fe 4bce 29b30 9b12 9c40 9cfd 4cce 4ced",
    "2fa0f=9d67 2a0ce 4cf8 2a105 2a20e 2a291 9ebb 4d56 9ef9 9efe 9f05 9f0f 9f16 9f3b 2a600"]

/-- Marks, each with the characters that it can be put together with and what comes of it. -/
def pairs : List String :=
  ["300:41=c0 45=c8 49=cc 4f=d2 55=d9 61=e0 65=e8 69=ec 6f=f2 75=f9 dc=1db fc=1dc 4e=1f8",
    "300:6e=1f9 415=400 418=40d 435=450 438=45d 112=1e14 113=1e15 14c=1e50 14d=1e51 57=1e80",
    "300:77=1e81 c2=1ea6 e2=1ea7 102=1eb0 103=1eb1 ca=1ec0 ea=1ec1 d4=1ed2 f4=1ed3 1a0=1edc",
    "300:1a1=1edd 1af=1eea 1b0=1eeb 59=1ef2 79=1ef3 1f00=1f02 1f01=1f03 1f08=1f0a 1f09=1f0b",
    "300:1f10=1f12 1f11=1f13 1f18=1f1a 1f19=1f1b 1f20=1f22 1f21=1f23 1f28=1f2a 1f29=1f2b",
    "300:1f30=1f32 1f31=1f33 1f38=1f3a 1f39=1f3b 1f40=1f42 1f41=1f43 1f48=1f4a 1f49=1f4b",
    "300:1f50=1f52 1f51=1f53 1f59=1f5b 1f60=1f62 1f61=1f63 1f68=1f6a 1f69=1f6b 3b1=1f70",
    "300:3b5=1f72 3b7=1f74 3b9=1f76 3bf=1f78 3c5=1f7a 3c9=1f7c 391=1fba 395=1fc8 397=1fca",
    "300:3ca=1fd2 399=1fda 3cb=1fe2 3a5=1fea 39f=1ff8 3a9=1ffa",
    "301:41=c1 45=c9 49=cd 4f=d3 55=da 59=dd 61=e1 65=e9 69=ed 6f=f3 75=fa 79=fd 43=106 63=107",
    "301:4c=139 6c=13a 4e=143 6e=144 52=154 72=155 53=15a 73=15b 5a=179 7a=17a dc=1d7 fc=1d8",
    "301:47=1f4 67=1f5 c5=1fa e5=1fb c6=1fc e6=1fd d8=1fe f8=1ff 391=386 395=388 397=389",
    "301:399=38a 39f=38c 3a5=38e 3a9=38f 3ca=390 3b1=3ac 3b5=3ad 3b7=3ae 3b9=3af 3cb=3b0",
    "301:3bf=3cc 3c5=3cd 3c9=3ce 3d2=3d3 413=403 41a=40c 433=453 43a=45c c7=1e08 e7=1e09",
    "301:112=1e16 113=1e17 cf=1e2e ef=1e2f 4b=1e30 6b=1e31 4d=1e3e 6d=1e3f d5=1e4c f5=1e4d",
    "301:14c=1e52 14d=1e53 50=1e54 70=1e55 168=1e78 169=1e79 57=1e82 77=1e83 c2=1ea4 e2=1ea5",
    "301:102=1eae 103=1eaf ca=1ebe ea=1ebf d4=1ed0 f4=1ed1 1a0=1eda 1a1=1edb 1af=1ee8 1b0=1ee9",
    "301:1f00=1f04 1f01=1f05 1f08=1f0c 1f09=1f0d 1f10=1f14 1f11=1f15 1f18=1f1c 1f19=1f1d",
    "301:1f20=1f24 1f21=1f25 1f28=1f2c 1f29=1f2d 1f30=1f34 1f31=1f35 1f38=1f3c 1f39=1f3d",
    "301:1f40=1f44 1f41=1f45 1f48=1f4c 1f49=1f4d 1f50=1f54 1f51=1f55 1f59=1f5d 1f60=1f64",
    "301:1f61=1f65 1f68=1f6c 1f69=1f6d",
    "302:41=c2 45=ca 49=ce 4f=d4 55=db 61=e2 65=ea 69=ee 6f=f4 75=fb 43=108 63=109 47=11c",
    "302:67=11d 48=124 68=125 4a=134 6a=135 53=15c 73=15d 57=174 77=175 59=176 79=177 5a=1e90",
    "302:7a=1e91 1ea0=1eac 1ea1=1ead 1eb8=1ec6 1eb9=1ec7 1ecc=1ed8 1ecd=1ed9",
    "303:41=c3 4e=d1 4f=d5 61=e3 6e=f1 6f=f5 49=128 69=129 55=168 75=169 56=1e7c 76=1e7d",
    "303:c2=1eaa e2=1eab 102=1eb4 103=1eb5 45=1ebc 65=1ebd ca=1ec4 ea=1ec5 d4=1ed6 f4=1ed7",
    "303:1a0=1ee0 1a1=1ee1 1af=1eee 1b0=1eef 59=1ef8 79=1ef9",
    "304:41=100 61=101 45=112 65=113 49=12a 69=12b 4f=14c 6f=14d 55=16a 75=16b dc=1d5 fc=1d6",
    "304:c4=1de e4=1df 226=1e0 227=1e1 c6=1e2 e6=1e3 1ea=1ec 1eb=1ed d6=22a f6=22b d5=22c",
    "304:f5=22d 22e=230 22f=231 59=232 79=233 418=4e2 438=4e3 423=4ee 443=4ef 47=1e20 67=1e21",
    "304:1e36=1e38 1e37=1e39 1e5a=1e5c 1e5b=1e5d 3b1=1fb1 391=1fb9 3b9=1fd1 399=1fd9 3c5=1fe1",
    "304:3a5=1fe9",
    "306:41=102 61=103 45=114 65=115 47=11e 67=11f 49=12c 69=12d 4f=14e 6f=14f 55=16c 75=16d",
    "306:423=40e 418=419 438=439 443=45e 416=4c1 436=4c2 410=4d0 430=4d1 415=4d6 435=4d7",
    "306:228=1e1c 229=1e1d 1ea0=1eb6 1ea1=1eb7 3b1=1fb0 391=1fb8 3b9=1fd0 399=1fd8 3c5=1fe0",
    "306:3a5=1fe8",
    "307:43=10a 63=10b 45=116 65=117 47=120 67=121 49=130 5a=17b 7a=17c 41=226 61=227 4f=22e",
    "307:6f=22f 42=1e02 62=1e03 44=1e0a 64=1e0b 46=1e1e 66=1e1f 48=1e22 68=1e23 4d=1e40 6d=1e41",
    "307:4e=1e44 6e=1e45 50=1e56 70=1e57 52=1e58 72=1e59 53=1e60 73=1e61 15a=1e64 15b=1e65",
    "307:160=1e66 161=1e67 1e62=1e68 1e63=1e69 54=1e6a 74=1e6b 57=1e86 77=1e87 58=1e8a 78=1e8b",
    "307:59=1e8e 79=1e8f 17f=1e9b",
    "308:41=c4 45=cb 49=cf 4f=d6 55=dc 61=e4 65=eb 69=ef 6f=f6 75=fc 79=ff 59=178 399=3aa",
    "308:3a5=3ab 3b9=3ca 3c5=3cb 3d2=3d4 415=401 406=407 435=451 456=457 410=4d2 430=4d3",
    "308:4d8=4da 4d9=4db 416=4dc 436=4dd 417=4de 437=4df 418=4e4 438=4e5 41e=4e6 43e=4e7",
    "308:4e8=4ea 4e9=4eb 42d=4ec 44d=4ed 423=4f0 443=4f1 427=4f4 447=4f5 42b=4f8 44b=4f9",
    "308:48=1e26 68=1e27 d5=1e4e f5=1e4f 16a=1e7a 16b=1e7b 57=1e84 77=1e85 58=1e8c 78=1e8d",
    "308:74=1e97",
    "309:41=1ea2 61=1ea3 c2=1ea8 e2=1ea9 102=1eb2 103=1eb3 45=1eba 65=1ebb ca=1ec2 ea=1ec3",
    "309:49=1ec8 69=1ec9 4f=1ece 6f=1ecf d4=1ed4 f4=1ed5 1a0=1ede 1a1=1edf 55=1ee6 75=1ee7",
    "309:1af=1eec 1b0=1eed 59=1ef6 79=1ef7|30a:41=c5 61=e5 55=16e 75=16f 77=1e98 79=1e99",
    "30b:4f=150 6f=151 55=170 75=171 423=4f2 443=4f3",
    "30c:43=10c 63=10d 44=10e 64=10f 45=11a 65=11b 4c=13d 6c=13e 4e=147 6e=148 52=158 72=159",
    "30c:53=160 73=161 54=164 74=165 5a=17d 7a=17e 41=1cd 61=1ce 49=1cf 69=1d0 4f=1d1 6f=1d2",
    "30c:55=1d3 75=1d4 dc=1d9 fc=1da 47=1e6 67=1e7 4b=1e8 6b=1e9 1b7=1ee 292=1ef 6a=1f0 48=21e",
    "30c:68=21f",
    "30f:41=200 61=201 45=204 65=205 49=208 69=209 4f=20c 6f=20d 52=210 72=211 55=214 75=215",
    "30f:474=476 475=477",
    "311:41=202 61=203 45=206 65=207 49=20a 69=20b 4f=20e 6f=20f 52=212 72=213 55=216 75=217",
    "313:3b1=1f00 391=1f08 3b5=1f10 395=1f18 3b7=1f20 397=1f28 3b9=1f30 399=1f38 3bf=1f40",
    "313:39f=1f48 3c5=1f50 3c9=1f60 3a9=1f68 3c1=1fe4",
    "314:3b1=1f01 391=1f09 3b5=1f11 395=1f19 3b7=1f21 397=1f29 3b9=1f31 399=1f39 3bf=1f41",
    "314:39f=1f49 3c5=1f51 3a5=1f59 3c9=1f61 3a9=1f69 3c1=1fe5 3a1=1fec",
    "31b:4f=1a0 6f=1a1 55=1af 75=1b0",
    "323:42=1e04 62=1e05 44=1e0c 64=1e0d 48=1e24 68=1e25 4b=1e32 6b=1e33 4c=1e36 6c=1e37",
    "323:4d=1e42 6d=1e43 4e=1e46 6e=1e47 52=1e5a 72=1e5b 53=1e62 73=1e63 54=1e6c 74=1e6d",
    "323:56=1e7e 76=1e7f 57=1e88 77=1e89 5a=1e92 7a=1e93 41=1ea0 61=1ea1 45=1eb8 65=1eb9",
    "323:49=1eca 69=1ecb 4f=1ecc 6f=1ecd 1a0=1ee2 1a1=1ee3 55=1ee4 75=1ee5 1af=1ef0 1b0=1ef1",
    "323:59=1ef4 79=1ef5|324:55=1e72 75=1e73|325:41=1e00 61=1e01",
    "326:53=218 73=219 54=21a 74=21b",
    "327:43=c7 63=e7 47=122 67=123 4b=136 6b=137 4c=13b 6c=13c 4e=145 6e=146 52=156 72=157",
    "327:53=15e 73=15f 54=162 74=163 45=228 65=229 44=1e10 64=1e11 48=1e28 68=1e29",
    "328:41=104 61=105 45=118 65=119 49=12e 69=12f 55=172 75=173 4f=1ea 6f=1eb",
    "32d:44=1e12 64=1e13 45=1e18 65=1e19 4c=1e3c 6c=1e3d 4e=1e4a 6e=1e4b 54=1e70 74=1e71",
    "32d:55=1e76 75=1e77|32e:48=1e2a 68=1e2b",
    "330:45=1e1a 65=1e1b 49=1e2c 69=1e2d 55=1e74 75=1e75",
    "331:42=1e06 62=1e07 44=1e0e 64=1e0f 4b=1e34 6b=1e35 4c=1e3a 6c=1e3b 4e=1e48 6e=1e49",
    "331:52=1e5e 72=1e5f 54=1e6e 74=1e6f 5a=1e94 7a=1e95 68=1e96",
    "342:1f00=1f06 1f01=1f07 1f08=1f0e 1f09=1f0f 1f20=1f26 1f21=1f27 1f28=1f2e 1f29=1f2f",
    "342:1f30=1f36 1f31=1f37 1f38=1f3e 1f39=1f3f 1f50=1f56 1f51=1f57 1f59=1f5f 1f60=1f66",
    "342:1f61=1f67 1f68=1f6e 1f69=1f6f 3b1=1fb6 3b7=1fc6 3b9=1fd6 3ca=1fd7 3c5=1fe6 3cb=1fe7",
    "342:3c9=1ff6",
    "345:1f00=1f80 1f01=1f81 1f02=1f82 1f03=1f83 1f04=1f84 1f05=1f85 1f06=1f86 1f07=1f87",
    "345:1f08=1f88 1f09=1f89 1f0a=1f8a 1f0b=1f8b 1f0c=1f8c 1f0d=1f8d 1f0e=1f8e 1f0f=1f8f",
    "345:1f20=1f90 1f21=1f91 1f22=1f92 1f23=1f93 1f24=1f94 1f25=1f95 1f26=1f96 1f27=1f97",
    "345:1f28=1f98 1f29=1f99 1f2a=1f9a 1f2b=1f9b 1f2c=1f9c 1f2d=1f9d 1f2e=1f9e 1f2f=1f9f",
    "345:1f60=1fa0 1f61=1fa1 1f62=1fa2 1f63=1fa3 1f64=1fa4 1f65=1fa5 1f66=1fa6 1f67=1fa7",
    "345:1f68=1fa8 1f69=1fa9 1f6a=1faa 1f6b=1fab 1f6c=1fac 1f6d=1fad 1f6e=1fae 1f6f=1faf",
    "345:1f70=1fb2 3b1=1fb3 3ac=1fb4 1fb6=1fb7 391=1fbc 1f74=1fc2 3b7=1fc3 3ae=1fc4 1fc6=1fc7",
    "345:397=1fcc 1f7c=1ff2 3c9=1ff3 3ce=1ff4 1ff6=1ff7 3a9=1ffc|653:627=622",
    "654:627=623 648=624 64a=626 6d5=6c0 6c1=6c2 6d2=6d3|655:627=625",
    "93c:928=929 930=931 933=934|9be:9c7=9cb|9d7:9c7=9cc|b3e:b47=b4b|b56:b47=b48|b57:b47=b4c",
    "bbe:bc6=bca bc7=bcb|bd7:b92=b94 bc6=bcc|c56:c46=c48|cc2:cc6=cca",
    "cd5:cbf=cc0 cc6=cc7 cca=ccb|cd6:cc6=cc8|d3e:d46=d4a d47=d4b|d57:d46=d4c",
    "dca:dd9=dda ddc=ddd|dcf:dd9=ddc|ddf:dd9=dde|102e:1025=1026",
    "1b35:1b05=1b06 1b07=1b08 1b09=1b0a 1b0b=1b0c 1b0d=1b0e 1b11=1b12 1b3a=1b3b 1b3c=1b3d",
    "1b35:1b3e=1b40 1b3f=1b41 1b42=1b43",
    "3099:304b=304c 304d=304e 304f=3050 3051=3052 3053=3054 3055=3056 3057=3058 3059=305a",
    "3099:305b=305c 305d=305e 305f=3060 3061=3062 3064=3065 3066=3067 3068=3069 306f=3070",
    "3099:3072=3073 3075=3076 3078=3079 307b=307c 3046=3094 309d=309e 30ab=30ac 30ad=30ae",
    "3099:30af=30b0 30b1=30b2 30b3=30b4 30b5=30b6 30b7=30b8 30b9=30ba 30bb=30bc 30bd=30be",
    "3099:30bf=30c0 30c1=30c2 30c4=30c5 30c6=30c7 30c8=30c9 30cf=30d0 30d2=30d3 30d5=30d6",
    "3099:30d8=30d9 30db=30dc 30a6=30f4 30ef=30f7 30f0=30f8 30f1=30f9 30f2=30fa 30fd=30fe",
    "309a:306f=3071 3072=3074 3075=3077 3078=307a 307b=307d 30cf=30d1 30d2=30d4 30d5=30d7",
    "309a:30d8=30da 30db=30dd|110ba:11099=1109a 1109b=1109c 110a5=110ab",
    "11127:11131=1112e 11132=1112f|1133e:11347=1134b|11357:11347=1134c|114b0:114b9=114bc",
    "114ba:114b9=114bb|114bd:114b9=114be|115af:115b8=115ba 115b9=115bb|11930:11935=11938"]

/-- The order of marks behind a letter: ranges with their classes. All other characters have class 0. -/
def classRanges : Array (Nat × Nat × Nat) := #[
  (768, 788, 230), (789, 789, 232), (790, 793, 220), (794, 794, 232), (795, 795, 216),
  (796, 800, 220), (801, 802, 202), (803, 806, 220), (807, 808, 202), (809, 819, 220),
  (820, 824, 1), (825, 828, 220), (829, 836, 230), (837, 837, 240), (838, 838, 230),
  (839, 841, 220), (842, 844, 230), (845, 846, 220), (848, 850, 230), (851, 854, 220),
  (855, 855, 230), (856, 856, 232), (857, 858, 220), (859, 859, 230), (860, 860, 233),
  (861, 862, 234), (863, 863, 233), (864, 865, 234), (866, 866, 233), (867, 879, 230),
  (1155, 1159, 230), (1425, 1425, 220), (1426, 1429, 230), (1430, 1430, 220), (1431, 1433, 230),
  (1434, 1434, 222), (1435, 1435, 220), (1436, 1441, 230), (1442, 1447, 220), (1448, 1449, 230),
  (1450, 1450, 220), (1451, 1452, 230), (1453, 1453, 222), (1454, 1454, 228), (1455, 1455, 230),
  (1456, 1456, 10), (1457, 1457, 11), (1458, 1458, 12), (1459, 1459, 13), (1460, 1460, 14),
  (1461, 1461, 15), (1462, 1462, 16), (1463, 1463, 17), (1464, 1464, 18), (1465, 1466, 19),
  (1467, 1467, 20), (1468, 1468, 21), (1469, 1469, 22), (1471, 1471, 23), (1473, 1473, 24),
  (1474, 1474, 25), (1476, 1476, 230), (1477, 1477, 220), (1479, 1479, 18), (1552, 1559, 230),
  (1560, 1560, 30), (1561, 1561, 31), (1562, 1562, 32), (1611, 1611, 27), (1612, 1612, 28),
  (1613, 1613, 29), (1614, 1614, 30), (1615, 1615, 31), (1616, 1616, 32), (1617, 1617, 33),
  (1618, 1618, 34), (1619, 1620, 230), (1621, 1622, 220), (1623, 1627, 230), (1628, 1628, 220),
  (1629, 1630, 230), (1631, 1631, 220), (1648, 1648, 35), (1750, 1756, 230), (1759, 1762, 230),
  (1763, 1763, 220), (1764, 1764, 230), (1767, 1768, 230), (1770, 1770, 220), (1771, 1772, 230),
  (1773, 1773, 220), (1809, 1809, 36), (1840, 1840, 230), (1841, 1841, 220), (1842, 1843, 230),
  (1844, 1844, 220), (1845, 1846, 230), (1847, 1849, 220), (1850, 1850, 230), (1851, 1852, 220),
  (1853, 1853, 230), (1854, 1854, 220), (1855, 1857, 230), (1858, 1858, 220), (1859, 1859, 230),
  (1860, 1860, 220), (1861, 1861, 230), (1862, 1862, 220), (1863, 1863, 230), (1864, 1864, 220),
  (1865, 1866, 230), (2027, 2033, 230), (2034, 2034, 220), (2035, 2035, 230), (2045, 2045, 220),
  (2070, 2073, 230), (2075, 2083, 230), (2085, 2087, 230), (2089, 2093, 230), (2137, 2139, 220),
  (2200, 2200, 230), (2201, 2203, 220), (2204, 2207, 230), (2250, 2254, 230), (2255, 2259, 220),
  (2260, 2273, 230), (2275, 2275, 220), (2276, 2277, 230), (2278, 2278, 220), (2279, 2280, 230),
  (2281, 2281, 220), (2282, 2284, 230), (2285, 2287, 220), (2288, 2288, 27), (2289, 2289, 28),
  (2290, 2290, 29), (2291, 2293, 230), (2294, 2294, 220), (2295, 2296, 230), (2297, 2298, 220),
  (2299, 2303, 230), (2364, 2364, 7), (2381, 2381, 9), (2385, 2385, 230), (2386, 2386, 220),
  (2387, 2388, 230), (2492, 2492, 7), (2509, 2509, 9), (2558, 2558, 230), (2620, 2620, 7),
  (2637, 2637, 9), (2748, 2748, 7), (2765, 2765, 9), (2876, 2876, 7), (2893, 2893, 9),
  (3021, 3021, 9), (3132, 3132, 7), (3149, 3149, 9), (3157, 3157, 84), (3158, 3158, 91),
  (3260, 3260, 7), (3277, 3277, 9), (3387, 3388, 9), (3405, 3405, 9), (3530, 3530, 9),
  (3640, 3641, 103), (3642, 3642, 9), (3656, 3659, 107), (3768, 3769, 118), (3770, 3770, 9),
  (3784, 3787, 122), (3864, 3865, 220), (3893, 3893, 220), (3895, 3895, 220), (3897, 3897, 216),
  (3953, 3953, 129), (3954, 3954, 130), (3956, 3956, 132), (3962, 3965, 130), (3968, 3968, 130),
  (3970, 3971, 230), (3972, 3972, 9), (3974, 3975, 230), (4038, 4038, 220), (4151, 4151, 7),
  (4153, 4154, 9), (4237, 4237, 220), (4957, 4959, 230), (5908, 5909, 9), (5940, 5940, 9),
  (6098, 6098, 9), (6109, 6109, 230), (6313, 6313, 228), (6457, 6457, 222), (6458, 6458, 230),
  (6459, 6459, 220), (6679, 6679, 230), (6680, 6680, 220), (6752, 6752, 9), (6773, 6780, 230),
  (6783, 6783, 220), (6832, 6836, 230), (6837, 6842, 220), (6843, 6844, 230), (6845, 6845, 220),
  (6847, 6848, 220), (6849, 6850, 230), (6851, 6852, 220), (6853, 6857, 230), (6858, 6858, 220),
  (6859, 6862, 230), (6964, 6964, 7), (6980, 6980, 9), (7019, 7019, 230), (7020, 7020, 220),
  (7021, 7027, 230), (7082, 7083, 9), (7142, 7142, 7), (7154, 7155, 9), (7223, 7223, 7),
  (7376, 7378, 230), (7380, 7380, 1), (7381, 7385, 220), (7386, 7387, 230), (7388, 7391, 220),
  (7392, 7392, 230), (7394, 7400, 1), (7405, 7405, 220), (7412, 7412, 230), (7416, 7417, 230),
  (7616, 7617, 230), (7618, 7618, 220), (7619, 7625, 230), (7626, 7626, 220), (7627, 7628, 230),
  (7629, 7629, 234), (7630, 7630, 214), (7631, 7631, 220), (7632, 7632, 202), (7633, 7669, 230),
  (7670, 7670, 232), (7671, 7672, 228), (7673, 7673, 220), (7674, 7674, 218), (7675, 7675, 230),
  (7676, 7676, 233), (7677, 7677, 220), (7678, 7678, 230), (7679, 7679, 220), (8400, 8401, 230),
  (8402, 8403, 1), (8404, 8407, 230), (8408, 8410, 1), (8411, 8412, 230), (8417, 8417, 230),
  (8421, 8422, 1), (8423, 8423, 230), (8424, 8424, 220), (8425, 8425, 230), (8426, 8427, 1),
  (8428, 8431, 220), (8432, 8432, 230), (11503, 11505, 230), (11647, 11647, 9), (11744, 11775, 230),
  (12330, 12330, 218), (12331, 12331, 228), (12332, 12332, 232), (12333, 12333, 222),
  (12334, 12335, 224), (12441, 12442, 8), (42607, 42607, 230), (42612, 42621, 230),
  (42654, 42655, 230), (42736, 42737, 230), (43014, 43014, 9), (43052, 43052, 9), (43204, 43204, 9),
  (43232, 43249, 230), (43307, 43309, 220), (43347, 43347, 9), (43443, 43443, 7), (43456, 43456, 9),
  (43696, 43696, 230), (43698, 43699, 230), (43700, 43700, 220), (43703, 43704, 230),
  (43710, 43711, 230), (43713, 43713, 230), (43766, 43766, 9), (44013, 44013, 9),
  (64286, 64286, 26), (65056, 65062, 230), (65063, 65069, 220), (65070, 65071, 230),
  (66045, 66045, 220), (66272, 66272, 220), (66422, 66426, 230), (68109, 68109, 220),
  (68111, 68111, 230), (68152, 68152, 230), (68153, 68153, 1), (68154, 68154, 220),
  (68159, 68159, 9), (68325, 68325, 230), (68326, 68326, 220), (68900, 68903, 230),
  (69291, 69292, 230), (69446, 69447, 220), (69448, 69450, 230), (69451, 69451, 220),
  (69452, 69452, 230), (69453, 69456, 220), (69506, 69506, 230), (69507, 69507, 220),
  (69508, 69508, 230), (69509, 69509, 220), (69702, 69702, 9), (69744, 69744, 9), (69759, 69759, 9),
  (69817, 69817, 9), (69818, 69818, 7), (69888, 69890, 230), (69939, 69940, 9), (70003, 70003, 7),
  (70080, 70080, 9), (70090, 70090, 7), (70197, 70197, 9), (70198, 70198, 7), (70377, 70377, 7),
  (70378, 70378, 9), (70459, 70460, 7), (70477, 70477, 9), (70502, 70508, 230), (70512, 70516, 230),
  (70722, 70722, 9), (70726, 70726, 7), (70750, 70750, 230), (70850, 70850, 9), (70851, 70851, 7),
  (71103, 71103, 9), (71104, 71104, 7), (71231, 71231, 9), (71350, 71350, 9), (71351, 71351, 7),
  (71467, 71467, 9), (71737, 71737, 9), (71738, 71738, 7), (71997, 71998, 9), (72003, 72003, 7),
  (72160, 72160, 9), (72244, 72244, 9), (72263, 72263, 9), (72345, 72345, 9), (72767, 72767, 9),
  (73026, 73026, 7), (73028, 73029, 9), (73111, 73111, 9), (92912, 92916, 1), (92976, 92982, 230),
  (94192, 94193, 6), (113822, 113822, 1), (119141, 119142, 216), (119143, 119145, 1),
  (119149, 119149, 226), (119150, 119154, 216), (119163, 119170, 220), (119173, 119177, 230),
  (119178, 119179, 220), (119210, 119213, 230), (119362, 119364, 230), (122880, 122886, 230),
  (122888, 122904, 230), (122907, 122913, 230), (122915, 122916, 230), (122918, 122922, 230),
  (123184, 123190, 230), (123566, 123566, 230), (123628, 123631, 230), (125136, 125142, 220),
  (125252, 125257, 230), (125258, 125258, 7)]

end PageComposer.Text.Compatibility
