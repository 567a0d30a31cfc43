import Sift.Unicode.CodeSet

/-! # General categories

Every code point has one general category: letters, marks, numbers, punctuation, symbols,
separators and the rest, each divided further.  Categories decide which characters a character
class such as `\p{Lu}` holds and which characters a quoted text shows as they are. -/

namespace Sift.Unicode

/-- The thirty general categories, by their two-letter names. -/
inductive Category where
  | lu | ll | lt | lm | lo | mn | mc | me | nd | nl | no | pc | pd | ps | pe
  | pi | pf | po | sm | sc | sk | so | zs | zl | zp | cc | cf | cs | co | cn
  deriving DecidableEq

namespace Category

/-- The category of a two-letter name. -/
def ofName (name : String) : Category :=
  match name with
  | "Lu" => .lu
  | "Ll" => .ll
  | "Lt" => .lt
  | "Lm" => .lm
  | "Lo" => .lo
  | "Mn" => .mn
  | "Mc" => .mc
  | "Me" => .me
  | "Nd" => .nd
  | "Nl" => .nl
  | "No" => .no
  | "Pc" => .pc
  | "Pd" => .pd
  | "Ps" => .ps
  | "Pe" => .pe
  | "Pi" => .pi
  | "Pf" => .pf
  | "Po" => .po
  | "Sm" => .sm
  | "Sc" => .sc
  | "Sk" => .sk
  | "So" => .so
  | "Zs" => .zs
  | "Zl" => .zl
  | "Zp" => .zp
  | "Cc" => .cc
  | "Cf" => .cf
  | "Cs" => .cs
  | "Co" => .co
  | _ => .cn

/-- The names of categories and of groups of categories, in lower case and without blanks,
    hyphens and underscores, each with the categories it covers. -/
def named : List (List String × List Category) :=
  [
    (["c", "other"], [.cc, .cf, .cs, .co, .cn]),
    (["cc", "control", "cntrl"], [.cc]),
    (["cf", "format"], [.cf]),
    (["cn", "unassigned"], [.cn]),
    (["co", "privateuse"], [.co]),
    (["cs", "surrogate"], [.cs]),
    (["l", "letter"], [.lu, .ll, .lt, .lm, .lo]),
    (["lc", "casedletter"], [.lu, .ll, .lt]),
    (["ll", "lowercaseletter"], [.ll]),
    (["lm", "modifierletter"], [.lm]),
    (["lo", "otherletter"], [.lo]),
    (["lt", "titlecaseletter"], [.lt]),
    (["lu", "uppercaseletter"], [.lu]),
    (["m", "mark", "combiningmark"], [.mn, .mc, .me]),
    (["mc", "spacingmark"], [.mc]),
    (["me", "enclosingmark"], [.me]),
    (["mn", "nonspacingmark"], [.mn]),
    (["n", "number"], [.nd, .nl, .no]),
    (["nd", "decimalnumber", "digit"], [.nd]),
    (["nl", "letternumber"], [.nl]),
    (["no", "othernumber"], [.no]),
    (["p", "punctuation", "punct"], [.pc, .pd, .ps, .pe, .pi, .pf, .po]),
    (["pc", "connectorpunctuation"], [.pc]),
    (["pd", "dashpunctuation"], [.pd]),
    (["pe", "closepunctuation"], [.pe]),
    (["pf", "finalpunctuation"], [.pf]),
    (["pi", "initialpunctuation"], [.pi]),
    (["po", "otherpunctuation"], [.po]),
    (["ps", "openpunctuation"], [.ps]),
    (["s", "symbol"], [.sm, .sc, .sk, .so]),
    (["sc", "currencysymbol"], [.sc]),
    (["sk", "modifiersymbol"], [.sk]),
    (["sm", "mathsymbol"], [.sm]),
    (["so", "othersymbol"], [.so]),
    (["z", "separator"], [.zs, .zl, .zp]),
    (["zl", "lineseparator"], [.zl]),
    (["zp", "paragraphseparator"], [.zp]),
    (["zs", "spaceseparator"], [.zs])
  ]

/-- The categories of all code points: where each run of one category starts. -/
private def runs : Runs Category := .parse ofName
  "0 Cc 20 Zs 21 Po 24 Sc 25 Po 28 Ps 29 Pe 2a Po 2b Sm 2c Po 2d Pd 2e Po 30 Nd 3a Po 3c Sm 3f
  Po 41 Lu 5b Ps 5c Po 5d Pe 5e Sk 5f Pc 60 Sk 61 Ll 7b Ps 7c Sm 7d Pe 7e Sm 7f Cc a0 Zs a1 Po
  a2 Sc a6 So a7 Po a8 Sk a9 So aa Lo ab Pi ac Sm ad Cf ae So af Sk b0 So b1 Sm b2 No b4 Sk b5
  Ll b6 Po b8 Sk b9 No ba Lo bb Pf bc No bf Po c0 Lu d7 Sm d8 Lu df Ll f7 Sm f8 Ll 100 Lu 101
  Ll 102 Lu 103 Ll 104 Lu 105 Ll 106 Lu 107 Ll 108 Lu 109 Ll 10a Lu 10b Ll 10c Lu 10d Ll 10e Lu
  10f Ll 110 Lu 111 Ll 112 Lu 113 Ll 114 Lu 115 Ll 116 Lu 117 Ll 118 Lu 119 Ll 11a Lu 11b Ll
  11c Lu 11d Ll 11e Lu 11f Ll 120 Lu 121 Ll 122 Lu 123 Ll 124 Lu 125 Ll 126 Lu 127 Ll 128 Lu
  129 Ll 12a Lu 12b Ll 12c Lu 12d Ll 12e Lu 12f Ll 130 Lu 131 Ll 132 Lu 133 Ll 134 Lu 135 Ll
  136 Lu 137 Ll 139 Lu 13a Ll 13b Lu 13c Ll 13d Lu 13e Ll 13f Lu 140 Ll 141 Lu 142 Ll 143 Lu
  144 Ll 145 Lu 146 Ll 147 Lu 148 Ll 14a Lu 14b Ll 14c Lu 14d Ll 14e Lu 14f Ll 150 Lu 151 Ll
  152 Lu 153 Ll 154 Lu 155 Ll 156 Lu 157 Ll 158 Lu 159 Ll 15a Lu 15b Ll 15c Lu 15d Ll 15e Lu
  15f Ll 160 Lu 161 Ll 162 Lu 163 Ll 164 Lu 165 Ll 166 Lu 167 Ll 168 Lu 169 Ll 16a Lu 16b Ll
  16c Lu 16d Ll 16e Lu 16f Ll 170 Lu 171 Ll 172 Lu 173 Ll 174 Lu 175 Ll 176 Lu 177 Ll 178 Lu
  17a Ll 17b Lu 17c Ll 17d Lu 17e Ll 181 Lu 183 Ll 184 Lu 185 Ll 186 Lu 188 Ll 189 Lu 18c Ll
  18e Lu 192 Ll 193 Lu 195 Ll 196 Lu 199 Ll 19c Lu 19e Ll 19f Lu 1a1 Ll 1a2 Lu 1a3 Ll 1a4 Lu
  1a5 Ll 1a6 Lu 1a8 Ll 1a9 Lu 1aa Ll 1ac Lu 1ad Ll 1ae Lu 1b0 Ll 1b1 Lu 1b4 Ll 1b5 Lu 1b6 Ll
  1b7 Lu 1b9 Ll 1bb Lo 1bc Lu 1bd Ll 1c0 Lo 1c4 Lu 1c5 Lt 1c6 Ll 1c7 Lu 1c8 Lt 1c9 Ll 1ca Lu
  1cb Lt 1cc Ll 1cd Lu 1ce Ll 1cf Lu 1d0 Ll 1d1 Lu 1d2 Ll 1d3 Lu 1d4 Ll 1d5 Lu 1d6 Ll 1d7 Lu
  1d8 Ll 1d9 Lu 1da Ll 1db Lu 1dc Ll 1de Lu 1df Ll 1e0 Lu 1e1 Ll 1e2 Lu 1e3 Ll 1e4 Lu 1e5 Ll
  1e6 Lu 1e7 Ll 1e8 Lu 1e9 Ll 1ea Lu 1eb Ll 1ec Lu 1ed Ll 1ee Lu 1ef Ll 1f1 Lu 1f2 Lt 1f3 Ll
  1f4 Lu 1f5 Ll 1f6 Lu 1f9 Ll 1fa Lu 1fb Ll 1fc Lu 1fd Ll 1fe Lu 1ff Ll 200 Lu 201 Ll 202 Lu
  203 Ll 204 Lu 205 Ll 206 Lu 207 Ll 208 Lu 209 Ll 20a Lu 20b Ll 20c Lu 20d Ll 20e Lu 20f Ll
  210 Lu 211 Ll 212 Lu 213 Ll 214 Lu 215 Ll 216 Lu 217 Ll 218 Lu 219 Ll 21a Lu 21b Ll 21c Lu
  21d Ll 21e Lu 21f Ll 220 Lu 221 Ll 222 Lu 223 Ll 224 Lu 225 Ll 226 Lu 227 Ll 228 Lu 229 Ll
  22a Lu 22b Ll 22c Lu 22d Ll 22e Lu 22f Ll 230 Lu 231 Ll 232 Lu 233 Ll 23a Lu 23c Ll 23d Lu
  23f Ll 241 Lu 242 Ll 243 Lu 247 Ll 248 Lu 249 Ll 24a Lu 24b Ll 24c Lu 24d Ll 24e Lu 24f Ll
  294 Lo 295 Ll 2b0 Lm 2c2 Sk 2c6 Lm 2d2 Sk 2e0 Lm 2e5 Sk 2ec Lm 2ed Sk 2ee Lm 2ef Sk 300 Mn
  370 Lu 371 Ll 372 Lu 373 Ll 374 Lm 375 Sk 376 Lu 377 Ll 378 Cn 37a Lm 37b Ll 37e Po 37f Lu
  380 Cn 384 Sk 386 Lu 387 Po 388 Lu 38b Cn 38c Lu 38d Cn 38e Lu 390 Ll 391 Lu 3a2 Cn 3a3 Lu
  3ac Ll 3cf Lu 3d0 Ll 3d2 Lu 3d5 Ll 3d8 Lu 3d9 Ll 3da Lu 3db Ll 3dc Lu 3dd Ll 3de Lu 3df Ll
  3e0 Lu 3e1 Ll 3e2 Lu 3e3 Ll 3e4 Lu 3e5 Ll 3e6 Lu 3e7 Ll 3e8 Lu 3e9 Ll 3ea Lu 3eb Ll 3ec Lu
  3ed Ll 3ee Lu 3ef Ll 3f4 Lu 3f5 Ll 3f6 Sm 3f7 Lu 3f8 Ll 3f9 Lu 3fb Ll 3fd Lu 430 Ll 460 Lu
  461 Ll 462 Lu 463 Ll 464 Lu 465 Ll 466 Lu 467 Ll 468 Lu 469 Ll 46a Lu 46b Ll 46c Lu 46d Ll
  46e Lu 46f Ll 470 Lu 471 Ll 472 Lu 473 Ll 474 Lu 475 Ll 476 Lu 477 Ll 478 Lu 479 Ll 47a Lu
  47b Ll 47c Lu 47d Ll 47e Lu 47f Ll 480 Lu 481 Ll 482 So 483 Mn 488 Me 48a Lu 48b Ll 48c Lu
  48d Ll 48e Lu 48f Ll 490 Lu 491 Ll 492 Lu 493 Ll 494 Lu 495 Ll 496 Lu 497 Ll 498 Lu 499 Ll
  49a Lu 49b Ll 49c Lu 49d Ll 49e Lu 49f Ll 4a0 Lu 4a1 Ll 4a2 Lu 4a3 Ll 4a4 Lu 4a5 Ll 4a6 Lu
  4a7 Ll 4a8 Lu 4a9 Ll 4aa Lu 4ab Ll 4ac Lu 4ad Ll 4ae Lu 4af Ll 4b0 Lu 4b1 Ll 4b2 Lu 4b3 Ll
  4b4 Lu 4b5 Ll 4b6 Lu 4b7 Ll 4b8 Lu 4b9 Ll 4ba Lu 4bb Ll 4bc Lu 4bd Ll 4be Lu 4bf Ll 4c0 Lu
  4c2 Ll 4c3 Lu 4c4 Ll 4c5 Lu 4c6 Ll 4c7 Lu 4c8 Ll 4c9 Lu 4ca Ll 4cb Lu 4cc Ll 4cd Lu 4ce Ll
  4d0 Lu 4d1 Ll 4d2 Lu 4d3 Ll 4d4 Lu 4d5 Ll 4d6 Lu 4d7 Ll 4d8 Lu 4d9 Ll 4da Lu 4db Ll 4dc Lu
  4dd Ll 4de Lu 4df Ll 4e0 Lu 4e1 Ll 4e2 Lu 4e3 Ll 4e4 Lu 4e5 Ll 4e6 Lu 4e7 Ll 4e8 Lu 4e9 Ll
  4ea Lu 4eb Ll 4ec Lu 4ed Ll 4ee Lu 4ef Ll 4f0 Lu 4f1 Ll 4f2 Lu 4f3 Ll 4f4 Lu 4f5 Ll 4f6 Lu
  4f7 Ll 4f8 Lu 4f9 Ll 4fa Lu 4fb Ll 4fc Lu 4fd Ll 4fe Lu 4ff Ll 500 Lu 501 Ll 502 Lu 503 Ll
  504 Lu 505 Ll 506 Lu 507 Ll 508 Lu 509 Ll 50a Lu 50b Ll 50c Lu 50d Ll 50e Lu 50f Ll 510 Lu
  511 Ll 512 Lu 513 Ll 514 Lu 515 Ll 516 Lu 517 Ll 518 Lu 519 Ll 51a Lu 51b Ll 51c Lu 51d Ll
  51e Lu 51f Ll 520 Lu 521 Ll 522 Lu 523 Ll 524 Lu 525 Ll 526 Lu 527 Ll 528 Lu 529 Ll 52a Lu
  52b Ll 52c Lu 52d Ll 52e Lu 52f Ll 530 Cn 531 Lu 557 Cn 559 Lm 55a Po 560 Ll 589 Po 58a Pd
  58b Cn 58d So 58f Sc 590 Cn 591 Mn 5be Pd 5bf Mn 5c0 Po 5c1 Mn 5c3 Po 5c4 Mn 5c6 Po 5c7 Mn
  5c8 Cn 5d0 Lo 5eb Cn 5ef Lo 5f3 Po 5f5 Cn 600 Cf 606 Sm 609 Po 60b Sc 60c Po 60e So 610 Mn
  61b Po 61c Cf 61d Po 620 Lo 640 Lm 641 Lo 64b Mn 660 Nd 66a Po 66e Lo 670 Mn 671 Lo 6d4 Po
  6d5 Lo 6d6 Mn 6dd Cf 6de So 6df Mn 6e5 Lm 6e7 Mn 6e9 So 6ea Mn 6ee Lo 6f0 Nd 6fa Lo 6fd So
  6ff Lo 700 Po 70e Cn 70f Cf 710 Lo 711 Mn 712 Lo 730 Mn 74b Cn 74d Lo 7a6 Mn 7b1 Lo 7b2 Cn
  7c0 Nd 7ca Lo 7eb Mn 7f4 Lm 7f6 So 7f7 Po 7fa Lm 7fb Cn 7fd Mn 7fe Sc 800 Lo 816 Mn 81a Lm
  81b Mn 824 Lm 825 Mn 828 Lm 829 Mn 82e Cn 830 Po 83f Cn 840 Lo 859 Mn 85c Cn 85e Po 85f Cn
  860 Lo 86b Cn 870 Lo 888 Sk 889 Lo 88f Cn 890 Cf 892 Cn 897 Mn 8a0 Lo 8c9 Lm 8ca Mn 8e2 Cf
  8e3 Mn 903 Mc 904 Lo 93a Mn 93b Mc 93c Mn 93d Lo 93e Mc 941 Mn 949 Mc 94d Mn 94e Mc 950 Lo
  951 Mn 958 Lo 962 Mn 964 Po 966 Nd 970 Po 971 Lm 972 Lo 981 Mn 982 Mc 984 Cn 985 Lo 98d Cn
  98f Lo 991 Cn 993 Lo 9a9 Cn 9aa Lo 9b1 Cn 9b2 Lo 9b3 Cn 9b6 Lo 9ba Cn 9bc Mn 9bd Lo 9be Mc
  9c1 Mn 9c5 Cn 9c7 Mc 9c9 Cn 9cb Mc 9cd Mn 9ce Lo 9cf Cn 9d7 Mc 9d8 Cn 9dc Lo 9de Cn 9df Lo
  9e2 Mn 9e4 Cn 9e6 Nd 9f0 Lo 9f2 Sc 9f4 No 9fa So 9fb Sc 9fc Lo 9fd Po 9fe Mn 9ff Cn a01 Mn
  a03 Mc a04 Cn a05 Lo a0b Cn a0f Lo a11 Cn a13 Lo a29 Cn a2a Lo a31 Cn a32 Lo a34 Cn a35 Lo
  a37 Cn a38 Lo a3a Cn a3c Mn a3d Cn a3e Mc a41 Mn a43 Cn a47 Mn a49 Cn a4b Mn a4e Cn a51 Mn
  a52 Cn a59 Lo a5d Cn a5e Lo a5f Cn a66 Nd a70 Mn a72 Lo a75 Mn a76 Po a77 Cn a81 Mn a83 Mc
  a84 Cn a85 Lo a8e Cn a8f Lo a92 Cn a93 Lo aa9 Cn aaa Lo ab1 Cn ab2 Lo ab4 Cn ab5 Lo aba Cn
  abc Mn abd Lo abe Mc ac1 Mn ac6 Cn ac7 Mn ac9 Mc aca Cn acb Mc acd Mn ace Cn ad0 Lo ad1 Cn
  ae0 Lo ae2 Mn ae4 Cn ae6 Nd af0 Po af1 Sc af2 Cn af9 Lo afa Mn b00 Cn b01 Mn b02 Mc b04 Cn
  b05 Lo b0d Cn b0f Lo b11 Cn b13 Lo b29 Cn b2a Lo b31 Cn b32 Lo b34 Cn b35 Lo b3a Cn b3c Mn
  b3d Lo b3e Mc b3f Mn b40 Mc b41 Mn b45 Cn b47 Mc b49 Cn b4b Mc b4d Mn b4e Cn b55 Mn b57 Mc
  b58 Cn b5c Lo b5e Cn b5f Lo b62 Mn b64 Cn b66 Nd b70 So b71 Lo b72 No b78 Cn b82 Mn b83 Lo
  b84 Cn b85 Lo b8b Cn b8e Lo b91 Cn b92 Lo b96 Cn b99 Lo b9b Cn b9c Lo b9d Cn b9e Lo ba0 Cn
  ba3 Lo ba5 Cn ba8 Lo bab Cn bae Lo bba Cn bbe Mc bc0 Mn bc1 Mc bc3 Cn bc6 Mc bc9 Cn bca Mc
  bcd Mn bce Cn bd0 Lo bd1 Cn bd7 Mc bd8 Cn be6 Nd bf0 No bf3 So bf9 Sc bfa So bfb Cn c00 Mn
  c01 Mc c04 Mn c05 Lo c0d Cn c0e Lo c11 Cn c12 Lo c29 Cn c2a Lo c3a Cn c3c Mn c3d Lo c3e Mn
  c41 Mc c45 Cn c46 Mn c49 Cn c4a Mn c4e Cn c55 Mn c57 Cn c58 Lo c5b Cn c5d Lo c5e Cn c60 Lo
  c62 Mn c64 Cn c66 Nd c70 Cn c77 Po c78 No c7f So c80 Lo c81 Mn c82 Mc c84 Po c85 Lo c8d Cn
  c8e Lo c91 Cn c92 Lo ca9 Cn caa Lo cb4 Cn cb5 Lo cba Cn cbc Mn cbd Lo cbe Mc cbf Mn cc0 Mc
  cc5 Cn cc6 Mn cc7 Mc cc9 Cn cca Mc ccc Mn cce Cn cd5 Mc cd7 Cn cdd Lo cdf Cn ce0 Lo ce2 Mn
  ce4 Cn ce6 Nd cf0 Cn cf1 Lo cf3 Mc cf4 Cn d00 Mn d02 Mc d04 Lo d0d Cn d0e Lo d11 Cn d12 Lo
  d3b Mn d3d Lo d3e Mc d41 Mn d45 Cn d46 Mc d49 Cn d4a Mc d4d Mn d4e Lo d4f So d50 Cn d54 Lo
  d57 Mc d58 No d5f Lo d62 Mn d64 Cn d66 Nd d70 No d79 So d7a Lo d80 Cn d81 Mn d82 Mc d84 Cn
  d85 Lo d97 Cn d9a Lo db2 Cn db3 Lo dbc Cn dbd Lo dbe Cn dc0 Lo dc7 Cn dca Mn dcb Cn dcf Mc
  dd2 Mn dd5 Cn dd6 Mn dd7 Cn dd8 Mc de0 Cn de6 Nd df0 Cn df2 Mc df4 Po df5 Cn e01 Lo e31 Mn
  e32 Lo e34 Mn e3b Cn e3f Sc e40 Lo e46 Lm e47 Mn e4f Po e50 Nd e5a Po e5c Cn e81 Lo e83 Cn
  e84 Lo e85 Cn e86 Lo e8b Cn e8c Lo ea4 Cn ea5 Lo ea6 Cn ea7 Lo eb1 Mn eb2 Lo eb4 Mn ebd Lo
  ebe Cn ec0 Lo ec5 Cn ec6 Lm ec7 Cn ec8 Mn ecf Cn ed0 Nd eda Cn edc Lo ee0 Cn f00 Lo f01 So
  f04 Po f13 So f14 Po f15 So f18 Mn f1a So f20 Nd f2a No f34 So f35 Mn f36 So f37 Mn f38 So
  f39 Mn f3a Ps f3b Pe f3c Ps f3d Pe f3e Mc f40 Lo f48 Cn f49 Lo f6d Cn f71 Mn f7f Mc f80 Mn
  f85 Po f86 Mn f88 Lo f8d Mn f98 Cn f99 Mn fbd Cn fbe So fc6 Mn fc7 So fcd Cn fce So fd0 Po
  fd5 So fd9 Po fdb Cn 1000 Lo 102b Mc 102d Mn 1031 Mc 1032 Mn 1038 Mc 1039 Mn 103b Mc 103d Mn
  103f Lo 1040 Nd 104a Po 1050 Lo 1056 Mc 1058 Mn 105a Lo 105e Mn 1061 Lo 1062 Mc 1065 Lo 1067
  Mc 106e Lo 1071 Mn 1075 Lo 1082 Mn 1083 Mc 1085 Mn 1087 Mc 108d Mn 108e Lo 108f Mc 1090 Nd
  109a Mc 109d Mn 109e So 10a0 Lu 10c6 Cn 10c7 Lu 10c8 Cn 10cd Lu 10ce Cn 10d0 Ll 10fb Po 10fc
  Lm 10fd Ll 1100 Lo 1249 Cn 124a Lo 124e Cn 1250 Lo 1257 Cn 1258 Lo 1259 Cn 125a Lo 125e Cn
  1260 Lo 1289 Cn 128a Lo 128e Cn 1290 Lo 12b1 Cn 12b2 Lo 12b6 Cn 12b8 Lo 12bf Cn 12c0 Lo 12c1
  Cn 12c2 Lo 12c6 Cn 12c8 Lo 12d7 Cn 12d8 Lo 1311 Cn 1312 Lo 1316 Cn 1318 Lo 135b Cn 135d Mn
  1360 Po 1369 No 137d Cn 1380 Lo 1390 So 139a Cn 13a0 Lu 13f6 Cn 13f8 Ll 13fe Cn 1400 Pd 1401
  Lo 166d So 166e Po 166f Lo 1680 Zs 1681 Lo 169b Ps 169c Pe 169d Cn 16a0 Lo 16eb Po 16ee Nl
  16f1 Lo 16f9 Cn 1700 Lo 1712 Mn 1715 Mc 1716 Cn 171f Lo 1732 Mn 1734 Mc 1735 Po 1737 Cn 1740
  Lo 1752 Mn 1754 Cn 1760 Lo 176d Cn 176e Lo 1771 Cn 1772 Mn 1774 Cn 1780 Lo 17b4 Mn 17b6 Mc
  17b7 Mn 17be Mc 17c6 Mn 17c7 Mc 17c9 Mn 17d4 Po 17d7 Lm 17d8 Po 17db Sc 17dc Lo 17dd Mn 17de
  Cn 17e0 Nd 17ea Cn 17f0 No 17fa Cn 1800 Po 1806 Pd 1807 Po 180b Mn 180e Cf 180f Mn 1810 Nd
  181a Cn 1820 Lo 1843 Lm 1844 Lo 1879 Cn 1880 Lo 1885 Mn 1887 Lo 18a9 Mn 18aa Lo 18ab Cn 18b0
  Lo 18f6 Cn 1900 Lo 191f Cn 1920 Mn 1923 Mc 1927 Mn 1929 Mc 192c Cn 1930 Mc 1932 Mn 1933 Mc
  1939 Mn 193c Cn 1940 So 1941 Cn 1944 Po 1946 Nd 1950 Lo 196e Cn 1970 Lo 1975 Cn 1980 Lo 19ac
  Cn 19b0 Lo 19ca Cn 19d0 Nd 19da No 19db Cn 19de So 1a00 Lo 1a17 Mn 1a19 Mc 1a1b Mn 1a1c Cn
  1a1e Po 1a20 Lo 1a55 Mc 1a56 Mn 1a57 Mc 1a58 Mn 1a5f Cn 1a60 Mn 1a61 Mc 1a62 Mn 1a63 Mc 1a65
  Mn 1a6d Mc 1a73 Mn 1a7d Cn 1a7f Mn 1a80 Nd 1a8a Cn 1a90 Nd 1a9a Cn 1aa0 Po 1aa7 Lm 1aa8 Po
  1aae Cn 1ab0 Mn 1abe Me 1abf Mn 1acf Cn 1b00 Mn 1b04 Mc 1b05 Lo 1b34 Mn 1b35 Mc 1b36 Mn 1b3b
  Mc 1b3c Mn 1b3d Mc 1b42 Mn 1b43 Mc 1b45 Lo 1b4d Cn 1b50 Nd 1b5a Po 1b61 So 1b6b Mn 1b74 So
  1b7d Po 1b7f Cn 1b80 Mn 1b82 Mc 1b83 Lo 1ba1 Mc 1ba2 Mn 1ba6 Mc 1ba8 Mn 1baa Mc 1bab Mn 1bae
  Lo 1bb0 Nd 1bba Lo 1be6 Mn 1be7 Mc 1be8 Mn 1bea Mc 1bed Mn 1bee Mc 1bef Mn 1bf2 Mc 1bf4 Cn
  1bfc Po 1c00 Lo 1c24 Mc 1c2c Mn 1c34 Mc 1c36 Mn 1c38 Cn 1c3b Po 1c40 Nd 1c4a Cn 1c4d Lo 1c50
  Nd 1c5a Lo 1c78 Lm 1c7e Po 1c80 Ll 1c89 Lu 1c8a Ll 1c8b Cn 1c90 Lu 1cbb Cn 1cbd Lu 1cc0 Po
  1cc8 Cn 1cd0 Mn 1cd3 Po 1cd4 Mn 1ce1 Mc 1ce2 Mn 1ce9 Lo 1ced Mn 1cee Lo 1cf4 Mn 1cf5 Lo 1cf7
  Mc 1cf8 Mn 1cfa Lo 1cfb Cn 1d00 Ll 1d2c Lm 1d6b Ll 1d78 Lm 1d79 Ll 1d9b Lm 1dc0 Mn 1e00 Lu
  1e01 Ll 1e02 Lu 1e03 Ll 1e04 Lu 1e05 Ll 1e06 Lu 1e07 Ll 1e08 Lu 1e09 Ll 1e0a Lu 1e0b Ll 1e0c
  Lu 1e0d Ll 1e0e Lu 1e0f Ll 1e10 Lu 1e11 Ll 1e12 Lu 1e13 Ll 1e14 Lu 1e15 Ll 1e16 Lu 1e17 Ll
  1e18 Lu 1e19 Ll 1e1a Lu 1e1b Ll 1e1c Lu 1e1d Ll 1e1e Lu 1e1f Ll 1e20 Lu 1e21 Ll 1e22 Lu 1e23
  Ll 1e24 Lu 1e25 Ll 1e26 Lu 1e27 Ll 1e28 Lu 1e29 Ll 1e2a Lu 1e2b Ll 1e2c Lu 1e2d Ll 1e2e Lu
  1e2f Ll 1e30 Lu 1e31 Ll 1e32 Lu 1e33 Ll 1e34 Lu 1e35 Ll 1e36 Lu 1e37 Ll 1e38 Lu 1e39 Ll 1e3a
  Lu 1e3b Ll 1e3c Lu 1e3d Ll 1e3e Lu 1e3f Ll 1e40 Lu 1e41 Ll 1e42 Lu 1e43 Ll 1e44 Lu 1e45 Ll
  1e46 Lu 1e47 Ll 1e48 Lu 1e49 Ll 1e4a Lu 1e4b Ll 1e4c Lu 1e4d Ll 1e4e Lu 1e4f Ll 1e50 Lu 1e51
  Ll 1e52 Lu 1e53 Ll 1e54 Lu 1e55 Ll 1e56 Lu 1e57 Ll 1e58 Lu 1e59 Ll 1e5a Lu 1e5b Ll 1e5c Lu
  1e5d Ll 1e5e Lu 1e5f Ll 1e60 Lu 1e61 Ll 1e62 Lu 1e63 Ll 1e64 Lu 1e65 Ll 1e66 Lu 1e67 Ll 1e68
  Lu 1e69 Ll 1e6a Lu 1e6b Ll 1e6c Lu 1e6d Ll 1e6e Lu 1e6f Ll 1e70 Lu 1e71 Ll 1e72 Lu 1e73 Ll
  1e74 Lu 1e75 Ll 1e76 Lu 1e77 Ll 1e78 Lu 1e79 Ll 1e7a Lu 1e7b Ll 1e7c Lu 1e7d Ll 1e7e Lu 1e7f
  Ll 1e80 Lu 1e81 Ll 1e82 Lu 1e83 Ll 1e84 Lu 1e85 Ll 1e86 Lu 1e87 Ll 1e88 Lu 1e89 Ll 1e8a Lu
  1e8b Ll 1e8c Lu 1e8d Ll 1e8e Lu 1e8f Ll 1e90 Lu 1e91 Ll 1e92 Lu 1e93 Ll 1e94 Lu 1e95 Ll 1e9e
  Lu 1e9f Ll 1ea0 Lu 1ea1 Ll 1ea2 Lu 1ea3 Ll 1ea4 Lu 1ea5 Ll 1ea6 Lu 1ea7 Ll 1ea8 Lu 1ea9 Ll
  1eaa Lu 1eab Ll 1eac Lu 1ead Ll 1eae Lu 1eaf Ll 1eb0 Lu 1eb1 Ll 1eb2 Lu 1eb3 Ll 1eb4 Lu 1eb5
  Ll 1eb6 Lu 1eb7 Ll 1eb8 Lu 1eb9 Ll 1eba Lu 1ebb Ll 1ebc Lu 1ebd Ll 1ebe Lu 1ebf Ll 1ec0 Lu
  1ec1 Ll 1ec2 Lu 1ec3 Ll 1ec4 Lu 1ec5 Ll 1ec6 Lu 1ec7 Ll 1ec8 Lu 1ec9 Ll 1eca Lu 1ecb Ll 1ecc
  Lu 1ecd Ll 1ece Lu 1ecf Ll 1ed0 Lu 1ed1 Ll 1ed2 Lu 1ed3 Ll 1ed4 Lu 1ed5 Ll 1ed6 Lu 1ed7 Ll
  1ed8 Lu 1ed9 Ll 1eda Lu 1edb Ll 1edc Lu 1edd Ll 1ede Lu 1edf Ll 1ee0 Lu 1ee1 Ll 1ee2 Lu 1ee3
  Ll 1ee4 Lu 1ee5 Ll 1ee6 Lu 1ee7 Ll 1ee8 Lu 1ee9 Ll 1eea Lu 1eeb Ll 1eec Lu 1eed Ll 1eee Lu
  1eef Ll 1ef0 Lu 1ef1 Ll 1ef2 Lu 1ef3 Ll 1ef4 Lu 1ef5 Ll 1ef6 Lu 1ef7 Ll 1ef8 Lu 1ef9 Ll 1efa
  Lu 1efb Ll 1efc Lu 1efd Ll 1efe Lu 1eff Ll 1f08 Lu 1f10 Ll 1f16 Cn 1f18 Lu 1f1e Cn 1f20 Ll
  1f28 Lu 1f30 Ll 1f38 Lu 1f40 Ll 1f46 Cn 1f48 Lu 1f4e Cn 1f50 Ll 1f58 Cn 1f59 Lu 1f5a Cn 1f5b
  Lu 1f5c Cn 1f5d Lu 1f5e Cn 1f5f Lu 1f60 Ll 1f68 Lu 1f70 Ll 1f7e Cn 1f80 Ll 1f88 Lt 1f90 Ll
  1f98 Lt 1fa0 Ll 1fa8 Lt 1fb0 Ll 1fb5 Cn 1fb6 Ll 1fb8 Lu 1fbc Lt 1fbd Sk 1fbe Ll 1fbf Sk 1fc2
  Ll 1fc5 Cn 1fc6 Ll 1fc8 Lu 1fcc Lt 1fcd Sk 1fd0 Ll 1fd4 Cn 1fd6 Ll 1fd8 Lu 1fdc Cn 1fdd Sk
  1fe0 Ll 1fe8 Lu 1fed Sk 1ff0 Cn 1ff2 Ll 1ff5 Cn 1ff6 Ll 1ff8 Lu 1ffc Lt 1ffd Sk 1fff Cn 2000
  Zs 200b Cf 2010 Pd 2016 Po 2018 Pi 2019 Pf 201a Ps 201b Pi 201d Pf 201e Ps 201f Pi 2020 Po
  2028 Zl 2029 Zp 202a Cf 202f Zs 2030 Po 2039 Pi 203a Pf 203b Po 203f Pc 2041 Po 2044 Sm 2045
  Ps 2046 Pe 2047 Po 2052 Sm 2053 Po 2054 Pc 2055 Po 205f Zs 2060 Cf 2065 Cn 2066 Cf 2070 No
  2071 Lm 2072 Cn 2074 No 207a Sm 207d Ps 207e Pe 207f Lm 2080 No 208a Sm 208d Ps 208e Pe 208f
  Cn 2090 Lm 209d Cn 20a0 Sc 20c1 Cn 20d0 Mn 20dd Me 20e1 Mn 20e2 Me 20e5 Mn 20f1 Cn 2100 So
  2102 Lu 2103 So 2107 Lu 2108 So 210a Ll 210b Lu 210e Ll 2110 Lu 2113 Ll 2114 So 2115 Lu 2116
  So 2118 Sm 2119 Lu 211e So 2124 Lu 2125 So 2126 Lu 2127 So 2128 Lu 2129 So 212a Lu 212e So
  212f Ll 2130 Lu 2134 Ll 2135 Lo 2139 Ll 213a So 213c Ll 213e Lu 2140 Sm 2145 Lu 2146 Ll 214a
  So 214b Sm 214c So 214e Ll 214f So 2150 No 2160 Nl 2183 Lu 2184 Ll 2185 Nl 2189 No 218a So
  218c Cn 2190 Sm 2195 So 219a Sm 219c So 21a0 Sm 21a1 So 21a3 Sm 21a4 So 21a6 Sm 21a7 So 21ae
  Sm 21af So 21ce Sm 21d0 So 21d2 Sm 21d3 So 21d4 Sm 21d5 So 21f4 Sm 2300 So 2308 Ps 2309 Pe
  230a Ps 230b Pe 230c So 2320 Sm 2322 So 2329 Ps 232a Pe 232b So 237c Sm 237d So 239b Sm 23b4
  So 23dc Sm 23e2 So 2427 Cn 2440 So 244b Cn 2460 No 249c So 24ea No 2500 So 25b7 Sm 25b8 So
  25c1 Sm 25c2 So 25f8 Sm 2600 So 266f Sm 2670 So 2768 Ps 2769 Pe 276a Ps 276b Pe 276c Ps 276d
  Pe 276e Ps 276f Pe 2770 Ps 2771 Pe 2772 Ps 2773 Pe 2774 Ps 2775 Pe 2776 No 2794 So 27c0 Sm
  27c5 Ps 27c6 Pe 27c7 Sm 27e6 Ps 27e7 Pe 27e8 Ps 27e9 Pe 27ea Ps 27eb Pe 27ec Ps 27ed Pe 27ee
  Ps 27ef Pe 27f0 Sm 2800 So 2900 Sm 2983 Ps 2984 Pe 2985 Ps 2986 Pe 2987 Ps 2988 Pe 2989 Ps
  298a Pe 298b Ps 298c Pe 298d Ps 298e Pe 298f Ps 2990 Pe 2991 Ps 2992 Pe 2993 Ps 2994 Pe 2995
  Ps 2996 Pe 2997 Ps 2998 Pe 2999 Sm 29d8 Ps 29d9 Pe 29da Ps 29db Pe 29dc Sm 29fc Ps 29fd Pe
  29fe Sm 2b00 So 2b30 Sm 2b45 So 2b47 Sm 2b4d So 2b74 Cn 2b76 So 2b96 Cn 2b97 So 2c00 Lu 2c30
  Ll 2c60 Lu 2c61 Ll 2c62 Lu 2c65 Ll 2c67 Lu 2c68 Ll 2c69 Lu 2c6a Ll 2c6b Lu 2c6c Ll 2c6d Lu
  2c71 Ll 2c72 Lu 2c73 Ll 2c75 Lu 2c76 Ll 2c7c Lm 2c7e Lu 2c81 Ll 2c82 Lu 2c83 Ll 2c84 Lu 2c85
  Ll 2c86 Lu 2c87 Ll 2c88 Lu 2c89 Ll 2c8a Lu 2c8b Ll 2c8c Lu 2c8d Ll 2c8e Lu 2c8f Ll 2c90 Lu
  2c91 Ll 2c92 Lu 2c93 Ll 2c94 Lu 2c95 Ll 2c96 Lu 2c97 Ll 2c98 Lu 2c99 Ll 2c9a Lu 2c9b Ll 2c9c
  Lu 2c9d Ll 2c9e Lu 2c9f Ll 2ca0 Lu 2ca1 Ll 2ca2 Lu 2ca3 Ll 2ca4 Lu 2ca5 Ll 2ca6 Lu 2ca7 Ll
  2ca8 Lu 2ca9 Ll 2caa Lu 2cab Ll 2cac Lu 2cad Ll 2cae Lu 2caf Ll 2cb0 Lu 2cb1 Ll 2cb2 Lu 2cb3
  Ll 2cb4 Lu 2cb5 Ll 2cb6 Lu 2cb7 Ll 2cb8 Lu 2cb9 Ll 2cba Lu 2cbb Ll 2cbc Lu 2cbd Ll 2cbe Lu
  2cbf Ll 2cc0 Lu 2cc1 Ll 2cc2 Lu 2cc3 Ll 2cc4 Lu 2cc5 Ll 2cc6 Lu 2cc7 Ll 2cc8 Lu 2cc9 Ll 2cca
  Lu 2ccb Ll 2ccc Lu 2ccd Ll 2cce Lu 2ccf Ll 2cd0 Lu 2cd1 Ll 2cd2 Lu 2cd3 Ll 2cd4 Lu 2cd5 Ll
  2cd6 Lu 2cd7 Ll 2cd8 Lu 2cd9 Ll 2cda Lu 2cdb Ll 2cdc Lu 2cdd Ll 2cde Lu 2cdf Ll 2ce0 Lu 2ce1
  Ll 2ce2 Lu 2ce3 Ll 2ce5 So 2ceb Lu 2cec Ll 2ced Lu 2cee Ll 2cef Mn 2cf2 Lu 2cf3 Ll 2cf4 Cn
  2cf9 Po 2cfd No 2cfe Po 2d00 Ll 2d26 Cn 2d27 Ll 2d28 Cn 2d2d Ll 2d2e Cn 2d30 Lo 2d68 Cn 2d6f
  Lm 2d70 Po 2d71 Cn 2d7f Mn 2d80 Lo 2d97 Cn 2da0 Lo 2da7 Cn 2da8 Lo 2daf Cn 2db0 Lo 2db7 Cn
  2db8 Lo 2dbf Cn 2dc0 Lo 2dc7 Cn 2dc8 Lo 2dcf Cn 2dd0 Lo 2dd7 Cn 2dd8 Lo 2ddf Cn 2de0 Mn 2e00
  Po 2e02 Pi 2e03 Pf 2e04 Pi 2e05 Pf 2e06 Po 2e09 Pi 2e0a Pf 2e0b Po 2e0c Pi 2e0d Pf 2e0e Po
  2e17 Pd 2e18 Po 2e1a Pd 2e1b Po 2e1c Pi 2e1d Pf 2e1e Po 2e20 Pi 2e21 Pf 2e22 Ps 2e23 Pe 2e24
  Ps 2e25 Pe 2e26 Ps 2e27 Pe 2e28 Ps 2e29 Pe 2e2a Po 2e2f Lm 2e30 Po 2e3a Pd 2e3c Po 2e40 Pd
  2e41 Po 2e42 Ps 2e43 Po 2e50 So 2e52 Po 2e55 Ps 2e56 Pe 2e57 Ps 2e58 Pe 2e59 Ps 2e5a Pe 2e5b
  Ps 2e5c Pe 2e5d Pd 2e5e Cn 2e80 So 2e9a Cn 2e9b So 2ef4 Cn 2f00 So 2fd6 Cn 2ff0 So 3000 Zs
  3001 Po 3004 So 3005 Lm 3006 Lo 3007 Nl 3008 Ps 3009 Pe 300a Ps 300b Pe 300c Ps 300d Pe 300e
  Ps 300f Pe 3010 Ps 3011 Pe 3012 So 3014 Ps 3015 Pe 3016 Ps 3017 Pe 3018 Ps 3019 Pe 301a Ps
  301b Pe 301c Pd 301d Ps 301e Pe 3020 So 3021 Nl 302a Mn 302e Mc 3030 Pd 3031 Lm 3036 So 3038
  Nl 303b Lm 303c Lo 303d Po 303e So 3040 Cn 3041 Lo 3097 Cn 3099 Mn 309b Sk 309d Lm 309f Lo
  30a0 Pd 30a1 Lo 30fb Po 30fc Lm 30ff Lo 3100 Cn 3105 Lo 3130 Cn 3131 Lo 318f Cn 3190 So 3192
  No 3196 So 31a0 Lo 31c0 So 31e4 Cn 31ef So 31f0 Lo 3200 So 321f Cn 3220 No 322a So 3248 No
  3250 So 3251 No 3260 So 3280 No 328a So 32b1 No 32c0 So 3400 Lo 4dc0 So 4e00 Lo a015 Lm a016
  Lo a48d Cn a490 So a4c7 Cn a4d0 Lo a4f8 Lm a4fe Po a500 Lo a60c Lm a60d Po a610 Lo a620 Nd
  a62a Lo a62c Cn a640 Lu a641 Ll a642 Lu a643 Ll a644 Lu a645 Ll a646 Lu a647 Ll a648 Lu a649
  Ll a64a Lu a64b Ll a64c Lu a64d Ll a64e Lu a64f Ll a650 Lu a651 Ll a652 Lu a653 Ll a654 Lu
  a655 Ll a656 Lu a657 Ll a658 Lu a659 Ll a65a Lu a65b Ll a65c Lu a65d Ll a65e Lu a65f Ll a660
  Lu a661 Ll a662 Lu a663 Ll a664 Lu a665 Ll a666 Lu a667 Ll a668 Lu a669 Ll a66a Lu a66b Ll
  a66c Lu a66d Ll a66e Lo a66f Mn a670 Me a673 Po a674 Mn a67e Po a67f Lm a680 Lu a681 Ll a682
  Lu a683 Ll a684 Lu a685 Ll a686 Lu a687 Ll a688 Lu a689 Ll a68a Lu a68b Ll a68c Lu a68d Ll
  a68e Lu a68f Ll a690 Lu a691 Ll a692 Lu a693 Ll a694 Lu a695 Ll a696 Lu a697 Ll a698 Lu a699
  Ll a69a Lu a69b Ll a69c Lm a69e Mn a6a0 Lo a6e6 Nl a6f0 Mn a6f2 Po a6f8 Cn a700 Sk a717 Lm
  a720 Sk a722 Lu a723 Ll a724 Lu a725 Ll a726 Lu a727 Ll a728 Lu a729 Ll a72a Lu a72b Ll a72c
  Lu a72d Ll a72e Lu a72f Ll a732 Lu a733 Ll a734 Lu a735 Ll a736 Lu a737 Ll a738 Lu a739 Ll
  a73a Lu a73b Ll a73c Lu a73d Ll a73e Lu a73f Ll a740 Lu a741 Ll a742 Lu a743 Ll a744 Lu a745
  Ll a746 Lu a747 Ll a748 Lu a749 Ll a74a Lu a74b Ll a74c Lu a74d Ll a74e Lu a74f Ll a750 Lu
  a751 Ll a752 Lu a753 Ll a754 Lu a755 Ll a756 Lu a757 Ll a758 Lu a759 Ll a75a Lu a75b Ll a75c
  Lu a75d Ll a75e Lu a75f Ll a760 Lu a761 Ll a762 Lu a763 Ll a764 Lu a765 Ll a766 Lu a767 Ll
  a768 Lu a769 Ll a76a Lu a76b Ll a76c Lu a76d Ll a76e Lu a76f Ll a770 Lm a771 Ll a779 Lu a77a
  Ll a77b Lu a77c Ll a77d Lu a77f Ll a780 Lu a781 Ll a782 Lu a783 Ll a784 Lu a785 Ll a786 Lu
  a787 Ll a788 Lm a789 Sk a78b Lu a78c Ll a78d Lu a78e Ll a78f Lo a790 Lu a791 Ll a792 Lu a793
  Ll a796 Lu a797 Ll a798 Lu a799 Ll a79a Lu a79b Ll a79c Lu a79d Ll a79e Lu a79f Ll a7a0 Lu
  a7a1 Ll a7a2 Lu a7a3 Ll a7a4 Lu a7a5 Ll a7a6 Lu a7a7 Ll a7a8 Lu a7a9 Ll a7aa Lu a7af Ll a7b0
  Lu a7b5 Ll a7b6 Lu a7b7 Ll a7b8 Lu a7b9 Ll a7ba Lu a7bb Ll a7bc Lu a7bd Ll a7be Lu a7bf Ll
  a7c0 Lu a7c1 Ll a7c2 Lu a7c3 Ll a7c4 Lu a7c8 Ll a7c9 Lu a7ca Ll a7cb Lu a7cd Ll a7ce Cn a7d0
  Lu a7d1 Ll a7d2 Cn a7d3 Ll a7d4 Cn a7d5 Ll a7d6 Lu a7d7 Ll a7d8 Lu a7d9 Ll a7da Lu a7db Ll
  a7dc Lu a7dd Cn a7f2 Lm a7f5 Lu a7f6 Ll a7f7 Lo a7f8 Lm a7fa Ll a7fb Lo a802 Mn a803 Lo a806
  Mn a807 Lo a80b Mn a80c Lo a823 Mc a825 Mn a827 Mc a828 So a82c Mn a82d Cn a830 No a836 So
  a838 Sc a839 So a83a Cn a840 Lo a874 Po a878 Cn a880 Mc a882 Lo a8b4 Mc a8c4 Mn a8c6 Cn a8ce
  Po a8d0 Nd a8da Cn a8e0 Mn a8f2 Lo a8f8 Po a8fb Lo a8fc Po a8fd Lo a8ff Mn a900 Nd a90a Lo
  a926 Mn a92e Po a930 Lo a947 Mn a952 Mc a954 Cn a95f Po a960 Lo a97d Cn a980 Mn a983 Mc a984
  Lo a9b3 Mn a9b4 Mc a9b6 Mn a9ba Mc a9bc Mn a9be Mc a9c1 Po a9ce Cn a9cf Lm a9d0 Nd a9da Cn
  a9de Po a9e0 Lo a9e5 Mn a9e6 Lm a9e7 Lo a9f0 Nd a9fa Lo a9ff Cn aa00 Lo aa29 Mn aa2f Mc aa31
  Mn aa33 Mc aa35 Mn aa37 Cn aa40 Lo aa43 Mn aa44 Lo aa4c Mn aa4d Mc aa4e Cn aa50 Nd aa5a Cn
  aa5c Po aa60 Lo aa70 Lm aa71 Lo aa77 So aa7a Lo aa7b Mc aa7c Mn aa7d Mc aa7e Lo aab0 Mn aab1
  Lo aab2 Mn aab5 Lo aab7 Mn aab9 Lo aabe Mn aac0 Lo aac1 Mn aac2 Lo aac3 Cn aadb Lo aadd Lm
  aade Po aae0 Lo aaeb Mc aaec Mn aaee Mc aaf0 Po aaf2 Lo aaf3 Lm aaf5 Mc aaf6 Mn aaf7 Cn ab01
  Lo ab07 Cn ab09 Lo ab0f Cn ab11 Lo ab17 Cn ab20 Lo ab27 Cn ab28 Lo ab2f Cn ab30 Ll ab5b Sk
  ab5c Lm ab60 Ll ab69 Lm ab6a Sk ab6c Cn ab70 Ll abc0 Lo abe3 Mc abe5 Mn abe6 Mc abe8 Mn abe9
  Mc abeb Po abec Mc abed Mn abee Cn abf0 Nd abfa Cn ac00 Lo d7a4 Cn d7b0 Lo d7c7 Cn d7cb Lo
  d7fc Cn d800 Cs e000 Co f900 Lo fa6e Cn fa70 Lo fada Cn fb00 Ll fb07 Cn fb13 Ll fb18 Cn fb1d
  Lo fb1e Mn fb1f Lo fb29 Sm fb2a Lo fb37 Cn fb38 Lo fb3d Cn fb3e Lo fb3f Cn fb40 Lo fb42 Cn
  fb43 Lo fb45 Cn fb46 Lo fbb2 Sk fbc3 Cn fbd3 Lo fd3e Pe fd3f Ps fd40 So fd50 Lo fd90 Cn fd92
  Lo fdc8 Cn fdcf So fdd0 Cn fdf0 Lo fdfc Sc fdfd So fe00 Mn fe10 Po fe17 Ps fe18 Pe fe19 Po
  fe1a Cn fe20 Mn fe30 Po fe31 Pd fe33 Pc fe35 Ps fe36 Pe fe37 Ps fe38 Pe fe39 Ps fe3a Pe fe3b
  Ps fe3c Pe fe3d Ps fe3e Pe fe3f Ps fe40 Pe fe41 Ps fe42 Pe fe43 Ps fe44 Pe fe45 Po fe47 Ps
  fe48 Pe fe49 Po fe4d Pc fe50 Po fe53 Cn fe54 Po fe58 Pd fe59 Ps fe5a Pe fe5b Ps fe5c Pe fe5d
  Ps fe5e Pe fe5f Po fe62 Sm fe63 Pd fe64 Sm fe67 Cn fe68 Po fe69 Sc fe6a Po fe6c Cn fe70 Lo
  fe75 Cn fe76 Lo fefd Cn feff Cf ff00 Cn ff01 Po ff04 Sc ff05 Po ff08 Ps ff09 Pe ff0a Po ff0b
  Sm ff0c Po ff0d Pd ff0e Po ff10 Nd ff1a Po ff1c Sm ff1f Po ff21 Lu ff3b Ps ff3c Po ff3d Pe
  ff3e Sk ff3f Pc ff40 Sk ff41 Ll ff5b Ps ff5c Sm ff5d Pe ff5e Sm ff5f Ps ff60 Pe ff61 Po ff62
  Ps ff63 Pe ff64 Po ff66 Lo ff70 Lm ff71 Lo ff9e Lm ffa0 Lo ffbf Cn ffc2 Lo ffc8 Cn ffca Lo
  ffd0 Cn ffd2 Lo ffd8 Cn ffda Lo ffdd Cn ffe0 Sc ffe2 Sm ffe3 Sk ffe4 So ffe5 Sc ffe7 Cn ffe8
  So ffe9 Sm ffed So ffef Cn fff9 Cf fffc So fffe Cn 10000 Lo 1000c Cn 1000d Lo 10027 Cn 10028
  Lo 1003b Cn 1003c Lo 1003e Cn 1003f Lo 1004e Cn 10050 Lo 1005e Cn 10080 Lo 100fb Cn 10100 Po
  10103 Cn 10107 No 10134 Cn 10137 So 10140 Nl 10175 No 10179 So 1018a No 1018c So 1018f Cn
  10190 So 1019d Cn 101a0 So 101a1 Cn 101d0 So 101fd Mn 101fe Cn 10280 Lo 1029d Cn 102a0 Lo
  102d1 Cn 102e0 Mn 102e1 No 102fc Cn 10300 Lo 10320 No 10324 Cn 1032d Lo 10341 Nl 10342 Lo
  1034a Nl 1034b Cn 10350 Lo 10376 Mn 1037b Cn 10380 Lo 1039e Cn 1039f Po 103a0 Lo 103c4 Cn
  103c8 Lo 103d0 Po 103d1 Nl 103d6 Cn 10400 Lu 10428 Ll 10450 Lo 1049e Cn 104a0 Nd 104aa Cn
  104b0 Lu 104d4 Cn 104d8 Ll 104fc Cn 10500 Lo 10528 Cn 10530 Lo 10564 Cn 1056f Po 10570 Lu
  1057b Cn 1057c Lu 1058b Cn 1058c Lu 10593 Cn 10594 Lu 10596 Cn 10597 Ll 105a2 Cn 105a3 Ll
  105b2 Cn 105b3 Ll 105ba Cn 105bb Ll 105bd Cn 105c0 Lo 105f4 Cn 10600 Lo 10737 Cn 10740 Lo
  10756 Cn 10760 Lo 10768 Cn 10780 Lm 10786 Cn 10787 Lm 107b1 Cn 107b2 Lm 107bb Cn 10800 Lo
  10806 Cn 10808 Lo 10809 Cn 1080a Lo 10836 Cn 10837 Lo 10839 Cn 1083c Lo 1083d Cn 1083f Lo
  10856 Cn 10857 Po 10858 No 10860 Lo 10877 So 10879 No 10880 Lo 1089f Cn 108a7 No 108b0 Cn
  108e0 Lo 108f3 Cn 108f4 Lo 108f6 Cn 108fb No 10900 Lo 10916 No 1091c Cn 1091f Po 10920 Lo
  1093a Cn 1093f Po 10940 Cn 10980 Lo 109b8 Cn 109bc No 109be Lo 109c0 No 109d0 Cn 109d2 No
  10a00 Lo 10a01 Mn 10a04 Cn 10a05 Mn 10a07 Cn 10a0c Mn 10a10 Lo 10a14 Cn 10a15 Lo 10a18 Cn
  10a19 Lo 10a36 Cn 10a38 Mn 10a3b Cn 10a3f Mn 10a40 No 10a49 Cn 10a50 Po 10a59 Cn 10a60 Lo
  10a7d No 10a7f Po 10a80 Lo 10a9d No 10aa0 Cn 10ac0 Lo 10ac8 So 10ac9 Lo 10ae5 Mn 10ae7 Cn
  10aeb No 10af0 Po 10af7 Cn 10b00 Lo 10b36 Cn 10b39 Po 10b40 Lo 10b56 Cn 10b58 No 10b60 Lo
  10b73 Cn 10b78 No 10b80 Lo 10b92 Cn 10b99 Po 10b9d Cn 10ba9 No 10bb0 Cn 10c00 Lo 10c49 Cn
  10c80 Lu 10cb3 Cn 10cc0 Ll 10cf3 Cn 10cfa No 10d00 Lo 10d24 Mn 10d28 Cn 10d30 Nd 10d3a Cn
  10d40 Nd 10d4a Lo 10d4e Lm 10d4f Lo 10d50 Lu 10d66 Cn 10d69 Mn 10d6e Pd 10d6f Lm 10d70 Ll
  10d86 Cn 10d8e Sm 10d90 Cn 10e60 No 10e7f Cn 10e80 Lo 10eaa Cn 10eab Mn 10ead Pd 10eae Cn
  10eb0 Lo 10eb2 Cn 10ec2 Lo 10ec5 Cn 10efc Mn 10f00 Lo 10f1d No 10f27 Lo 10f28 Cn 10f30 Lo
  10f46 Mn 10f51 No 10f55 Po 10f5a Cn 10f70 Lo 10f82 Mn 10f86 Po 10f8a Cn 10fb0 Lo 10fc5 No
  10fcc Cn 10fe0 Lo 10ff7 Cn 11000 Mc 11001 Mn 11002 Mc 11003 Lo 11038 Mn 11047 Po 1104e Cn
  11052 No 11066 Nd 11070 Mn 11071 Lo 11073 Mn 11075 Lo 11076 Cn 1107f Mn 11082 Mc 11083 Lo
  110b0 Mc 110b3 Mn 110b7 Mc 110b9 Mn 110bb Po 110bd Cf 110be Po 110c2 Mn 110c3 Cn 110cd Cf
  110ce Cn 110d0 Lo 110e9 Cn 110f0 Nd 110fa Cn 11100 Mn 11103 Lo 11127 Mn 1112c Mc 1112d Mn
  11135 Cn 11136 Nd 11140 Po 11144 Lo 11145 Mc 11147 Lo 11148 Cn 11150 Lo 11173 Mn 11174 Po
  11176 Lo 11177 Cn 11180 Mn 11182 Mc 11183 Lo 111b3 Mc 111b6 Mn 111bf Mc 111c1 Lo 111c5 Po
  111c9 Mn 111cd Po 111ce Mc 111cf Mn 111d0 Nd 111da Lo 111db Po 111dc Lo 111dd Po 111e0 Cn
  111e1 No 111f5 Cn 11200 Lo 11212 Cn 11213 Lo 1122c Mc 1122f Mn 11232 Mc 11234 Mn 11235 Mc
  11236 Mn 11238 Po 1123e Mn 1123f Lo 11241 Mn 11242 Cn 11280 Lo 11287 Cn 11288 Lo 11289 Cn
  1128a Lo 1128e Cn 1128f Lo 1129e Cn 1129f Lo 112a9 Po 112aa Cn 112b0 Lo 112df Mn 112e0 Mc
  112e3 Mn 112eb Cn 112f0 Nd 112fa Cn 11300 Mn 11302 Mc 11304 Cn 11305 Lo 1130d Cn 1130f Lo
  11311 Cn 11313 Lo 11329 Cn 1132a Lo 11331 Cn 11332 Lo 11334 Cn 11335 Lo 1133a Cn 1133b Mn
  1133d Lo 1133e Mc 11340 Mn 11341 Mc 11345 Cn 11347 Mc 11349 Cn 1134b Mc 1134e Cn 11350 Lo
  11351 Cn 11357 Mc 11358 Cn 1135d Lo 11362 Mc 11364 Cn 11366 Mn 1136d Cn 11370 Mn 11375 Cn
  11380 Lo 1138a Cn 1138b Lo 1138c Cn 1138e Lo 1138f Cn 11390 Lo 113b6 Cn 113b7 Lo 113b8 Mc
  113bb Mn 113c1 Cn 113c2 Mc 113c3 Cn 113c5 Mc 113c6 Cn 113c7 Mc 113cb Cn 113cc Mc 113ce Mn
  113cf Mc 113d0 Mn 113d1 Lo 113d2 Mn 113d3 Lo 113d4 Po 113d6 Cn 113d7 Po 113d9 Cn 113e1 Mn
  113e3 Cn 11400 Lo 11435 Mc 11438 Mn 11440 Mc 11442 Mn 11445 Mc 11446 Mn 11447 Lo 1144b Po
  11450 Nd 1145a Po 1145c Cn 1145d Po 1145e Mn 1145f Lo 11462 Cn 11480 Lo 114b0 Mc 114b3 Mn
  114b9 Mc 114ba Mn 114bb Mc 114bf Mn 114c1 Mc 114c2 Mn 114c4 Lo 114c6 Po 114c7 Lo 114c8 Cn
  114d0 Nd 114da Cn 11580 Lo 115af Mc 115b2 Mn 115b6 Cn 115b8 Mc 115bc Mn 115be Mc 115bf Mn
  115c1 Po 115d8 Lo 115dc Mn 115de Cn 11600 Lo 11630 Mc 11633 Mn 1163b Mc 1163d Mn 1163e Mc
  1163f Mn 11641 Po 11644 Lo 11645 Cn 11650 Nd 1165a Cn 11660 Po 1166d Cn 11680 Lo 116ab Mn
  116ac Mc 116ad Mn 116ae Mc 116b0 Mn 116b6 Mc 116b7 Mn 116b8 Lo 116b9 Po 116ba Cn 116c0 Nd
  116ca Cn 116d0 Nd 116e4 Cn 11700 Lo 1171b Cn 1171d Mn 11720 Mc 11722 Mn 11726 Mc 11727 Mn
  1172c Cn 11730 Nd 1173a No 1173c Po 1173f So 11740 Lo 11747 Cn 11800 Lo 1182c Mc 1182f Mn
  11838 Mc 11839 Mn 1183b Po 1183c Cn 118a0 Lu 118c0 Ll 118e0 Nd 118ea No 118f3 Cn 118ff Lo
  11907 Cn 11909 Lo 1190a Cn 1190c Lo 11914 Cn 11915 Lo 11917 Cn 11918 Lo 11930 Mc 11936 Cn
  11937 Mc 11939 Cn 1193b Mn 1193d Mc 1193e Mn 1193f Lo 11940 Mc 11941 Lo 11942 Mc 11943 Mn
  11944 Po 11947 Cn 11950 Nd 1195a Cn 119a0 Lo 119a8 Cn 119aa Lo 119d1 Mc 119d4 Mn 119d8 Cn
  119da Mn 119dc Mc 119e0 Mn 119e1 Lo 119e2 Po 119e3 Lo 119e4 Mc 119e5 Cn 11a00 Lo 11a01 Mn
  11a0b Lo 11a33 Mn 11a39 Mc 11a3a Lo 11a3b Mn 11a3f Po 11a47 Mn 11a48 Cn 11a50 Lo 11a51 Mn
  11a57 Mc 11a59 Mn 11a5c Lo 11a8a Mn 11a97 Mc 11a98 Mn 11a9a Po 11a9d Lo 11a9e Po 11aa3 Cn
  11ab0 Lo 11af9 Cn 11b00 Po 11b0a Cn 11bc0 Lo 11be1 Po 11be2 Cn 11bf0 Nd 11bfa Cn 11c00 Lo
  11c09 Cn 11c0a Lo 11c2f Mc 11c30 Mn 11c37 Cn 11c38 Mn 11c3e Mc 11c3f Mn 11c40 Lo 11c41 Po
  11c46 Cn 11c50 Nd 11c5a No 11c6d Cn 11c70 Po 11c72 Lo 11c90 Cn 11c92 Mn 11ca8 Cn 11ca9 Mc
  11caa Mn 11cb1 Mc 11cb2 Mn 11cb4 Mc 11cb5 Mn 11cb7 Cn 11d00 Lo 11d07 Cn 11d08 Lo 11d0a Cn
  11d0b Lo 11d31 Mn 11d37 Cn 11d3a Mn 11d3b Cn 11d3c Mn 11d3e Cn 11d3f Mn 11d46 Lo 11d47 Mn
  11d48 Cn 11d50 Nd 11d5a Cn 11d60 Lo 11d66 Cn 11d67 Lo 11d69 Cn 11d6a Lo 11d8a Mc 11d8f Cn
  11d90 Mn 11d92 Cn 11d93 Mc 11d95 Mn 11d96 Mc 11d97 Mn 11d98 Lo 11d99 Cn 11da0 Nd 11daa Cn
  11ee0 Lo 11ef3 Mn 11ef5 Mc 11ef7 Po 11ef9 Cn 11f00 Mn 11f02 Lo 11f03 Mc 11f04 Lo 11f11 Cn
  11f12 Lo 11f34 Mc 11f36 Mn 11f3b Cn 11f3e Mc 11f40 Mn 11f41 Mc 11f42 Mn 11f43 Po 11f50 Nd
  11f5a Mn 11f5b Cn 11fb0 Lo 11fb1 Cn 11fc0 No 11fd5 So 11fdd Sc 11fe1 So 11ff2 Cn 11fff Po
  12000 Lo 1239a Cn 12400 Nl 1246f Cn 12470 Po 12475 Cn 12480 Lo 12544 Cn 12f90 Lo 12ff1 Po
  12ff3 Cn 13000 Lo 13430 Cf 13440 Mn 13441 Lo 13447 Mn 13456 Cn 13460 Lo 143fb Cn 14400 Lo
  14647 Cn 16100 Lo 1611e Mn 1612a Mc 1612d Mn 16130 Nd 1613a Cn 16800 Lo 16a39 Cn 16a40 Lo
  16a5f Cn 16a60 Nd 16a6a Cn 16a6e Po 16a70 Lo 16abf Cn 16ac0 Nd 16aca Cn 16ad0 Lo 16aee Cn
  16af0 Mn 16af5 Po 16af6 Cn 16b00 Lo 16b30 Mn 16b37 Po 16b3c So 16b40 Lm 16b44 Po 16b45 So
  16b46 Cn 16b50 Nd 16b5a Cn 16b5b No 16b62 Cn 16b63 Lo 16b78 Cn 16b7d Lo 16b90 Cn 16d40 Lm
  16d43 Lo 16d6b Lm 16d6d Po 16d70 Nd 16d7a Cn 16e40 Lu 16e60 Ll 16e80 No 16e97 Po 16e9b Cn
  16f00 Lo 16f4b Cn 16f4f Mn 16f50 Lo 16f51 Mc 16f88 Cn 16f8f Mn 16f93 Lm 16fa0 Cn 16fe0 Lm
  16fe2 Po 16fe3 Lm 16fe4 Mn 16fe5 Cn 16ff0 Mc 16ff2 Cn 17000 Lo 187f8 Cn 18800 Lo 18cd6 Cn
  18d00 Lo 18d09 Cn 1aff0 Lm 1aff4 Cn 1aff5 Lm 1affc Cn 1affd Lm 1afff Cn 1b000 Lo 1b123 Cn
  1b132 Lo 1b133 Cn 1b150 Lo 1b153 Cn 1b155 Lo 1b156 Cn 1b164 Lo 1b168 Cn 1b170 Lo 1b2fc Cn
  1bc00 Lo 1bc6b Cn 1bc70 Lo 1bc7d Cn 1bc80 Lo 1bc89 Cn 1bc90 Lo 1bc9a Cn 1bc9c So 1bc9d Mn
  1bc9f Po 1bca0 Cf 1bca4 Cn 1cc00 So 1ccf0 Nd 1ccfa Cn 1cd00 So 1ceb4 Cn 1cf00 Mn 1cf2e Cn
  1cf30 Mn 1cf47 Cn 1cf50 So 1cfc4 Cn 1d000 So 1d0f6 Cn 1d100 So 1d127 Cn 1d129 So 1d165 Mc
  1d167 Mn 1d16a So 1d16d Mc 1d173 Cf 1d17b Mn 1d183 So 1d185 Mn 1d18c So 1d1aa Mn 1d1ae So
  1d1eb Cn 1d200 So 1d242 Mn 1d245 So 1d246 Cn 1d2c0 No 1d2d4 Cn 1d2e0 No 1d2f4 Cn 1d300 So
  1d357 Cn 1d360 No 1d379 Cn 1d400 Lu 1d41a Ll 1d434 Lu 1d44e Ll 1d455 Cn 1d456 Ll 1d468 Lu
  1d482 Ll 1d49c Lu 1d49d Cn 1d49e Lu 1d4a0 Cn 1d4a2 Lu 1d4a3 Cn 1d4a5 Lu 1d4a7 Cn 1d4a9 Lu
  1d4ad Cn 1d4ae Lu 1d4b6 Ll 1d4ba Cn 1d4bb Ll 1d4bc Cn 1d4bd Ll 1d4c4 Cn 1d4c5 Ll 1d4d0 Lu
  1d4ea Ll 1d504 Lu 1d506 Cn 1d507 Lu 1d50b Cn 1d50d Lu 1d515 Cn 1d516 Lu 1d51d Cn 1d51e Ll
  1d538 Lu 1d53a Cn 1d53b Lu 1d53f Cn 1d540 Lu 1d545 Cn 1d546 Lu 1d547 Cn 1d54a Lu 1d551 Cn
  1d552 Ll 1d56c Lu 1d586 Ll 1d5a0 Lu 1d5ba Ll 1d5d4 Lu 1d5ee Ll 1d608 Lu 1d622 Ll 1d63c Lu
  1d656 Ll 1d670 Lu 1d68a Ll 1d6a6 Cn 1d6a8 Lu 1d6c1 Sm 1d6c2 Ll 1d6db Sm 1d6dc Ll 1d6e2 Lu
  1d6fb Sm 1d6fc Ll 1d715 Sm 1d716 Ll 1d71c Lu 1d735 Sm 1d736 Ll 1d74f Sm 1d750 Ll 1d756 Lu
  1d76f Sm 1d770 Ll 1d789 Sm 1d78a Ll 1d790 Lu 1d7a9 Sm 1d7aa Ll 1d7c3 Sm 1d7c4 Ll 1d7ca Lu
  1d7cb Ll 1d7cc Cn 1d7ce Nd 1d800 So 1da00 Mn 1da37 So 1da3b Mn 1da6d So 1da75 Mn 1da76 So
  1da84 Mn 1da85 So 1da87 Po 1da8c Cn 1da9b Mn 1daa0 Cn 1daa1 Mn 1dab0 Cn 1df00 Ll 1df0a Lo
  1df0b Ll 1df1f Cn 1df25 Ll 1df2b Cn 1e000 Mn 1e007 Cn 1e008 Mn 1e019 Cn 1e01b Mn 1e022 Cn
  1e023 Mn 1e025 Cn 1e026 Mn 1e02b Cn 1e030 Lm 1e06e Cn 1e08f Mn 1e090 Cn 1e100 Lo 1e12d Cn
  1e130 Mn 1e137 Lm 1e13e Cn 1e140 Nd 1e14a Cn 1e14e Lo 1e14f So 1e150 Cn 1e290 Lo 1e2ae Mn
  1e2af Cn 1e2c0 Lo 1e2ec Mn 1e2f0 Nd 1e2fa Cn 1e2ff Sc 1e300 Cn 1e4d0 Lo 1e4eb Lm 1e4ec Mn
  1e4f0 Nd 1e4fa Cn 1e5d0 Lo 1e5ee Mn 1e5f0 Lo 1e5f1 Nd 1e5fb Cn 1e5ff Po 1e600 Cn 1e7e0 Lo
  1e7e7 Cn 1e7e8 Lo 1e7ec Cn 1e7ed Lo 1e7ef Cn 1e7f0 Lo 1e7ff Cn 1e800 Lo 1e8c5 Cn 1e8c7 No
  1e8d0 Mn 1e8d7 Cn 1e900 Lu 1e922 Ll 1e944 Mn 1e94b Lm 1e94c Cn 1e950 Nd 1e95a Cn 1e95e Po
  1e960 Cn 1ec71 No 1ecac So 1ecad No 1ecb0 Sc 1ecb1 No 1ecb5 Cn 1ed01 No 1ed2e So 1ed2f No
  1ed3e Cn 1ee00 Lo 1ee04 Cn 1ee05 Lo 1ee20 Cn 1ee21 Lo 1ee23 Cn 1ee24 Lo 1ee25 Cn 1ee27 Lo
  1ee28 Cn 1ee29 Lo 1ee33 Cn 1ee34 Lo 1ee38 Cn 1ee39 Lo 1ee3a Cn 1ee3b Lo 1ee3c Cn 1ee42 Lo
  1ee43 Cn 1ee47 Lo 1ee48 Cn 1ee49 Lo 1ee4a Cn 1ee4b Lo 1ee4c Cn 1ee4d Lo 1ee50 Cn 1ee51 Lo
  1ee53 Cn 1ee54 Lo 1ee55 Cn 1ee57 Lo 1ee58 Cn 1ee59 Lo 1ee5a Cn 1ee5b Lo 1ee5c Cn 1ee5d Lo
  1ee5e Cn 1ee5f Lo 1ee60 Cn 1ee61 Lo 1ee63 Cn 1ee64 Lo 1ee65 Cn 1ee67 Lo 1ee6b Cn 1ee6c Lo
  1ee73 Cn 1ee74 Lo 1ee78 Cn 1ee79 Lo 1ee7d Cn 1ee7e Lo 1ee7f Cn 1ee80 Lo 1ee8a Cn 1ee8b Lo
  1ee9c Cn 1eea1 Lo 1eea4 Cn 1eea5 Lo 1eeaa Cn 1eeab Lo 1eebc Cn 1eef0 Sm 1eef2 Cn 1f000 So
  1f02c Cn 1f030 So 1f094 Cn 1f0a0 So 1f0af Cn 1f0b1 So 1f0c0 Cn 1f0c1 So 1f0d0 Cn 1f0d1 So
  1f0f6 Cn 1f100 No 1f10d So 1f1ae Cn 1f1e6 So 1f203 Cn 1f210 So 1f23c Cn 1f240 So 1f249 Cn
  1f250 So 1f252 Cn 1f260 So 1f266 Cn 1f300 So 1f3fb Sk 1f400 So 1f6d8 Cn 1f6dc So 1f6ed Cn
  1f6f0 So 1f6fd Cn 1f700 So 1f777 Cn 1f77b So 1f7da Cn 1f7e0 So 1f7ec Cn 1f7f0 So 1f7f1 Cn
  1f800 So 1f80c Cn 1f810 So 1f848 Cn 1f850 So 1f85a Cn 1f860 So 1f888 Cn 1f890 So 1f8ae Cn
  1f8b0 So 1f8bc Cn 1f8c0 So 1f8c2 Cn 1f900 So 1fa54 Cn 1fa60 So 1fa6e Cn 1fa70 So 1fa7d Cn
  1fa80 So 1fa8a Cn 1fa8f So 1fac7 Cn 1face So 1fadd Cn 1fadf So 1faea Cn 1faf0 So 1faf9 Cn
  1fb00 So 1fb93 Cn 1fb94 So 1fbf0 Nd 1fbfa Cn 20000 Lo 2a6e0 Cn 2a700 Lo 2b73a Cn 2b740 Lo
  2b81e Cn 2b820 Lo 2cea2 Cn 2ceb0 Lo 2ebe1 Cn 2ebf0 Lo 2ee5e Cn 2f800 Lo 2fa1e Cn 30000 Lo
  3134b Cn 31350 Lo 323b0 Cn e0001 Cf e0002 Cn e0020 Cf e0080 Cn e0100 Mn e01f0 Cn f0000 Co
  ffffe Cn 100000 Co 10fffe Cn"

/-- The general category of a character. -/
def of (c : Char) : Category := (runs.find? c.toNat).getD .cn

/-- The code points of some categories. -/
def codes (cs : List Category) : CodeSet := runs.codes cs.contains

end Category

/-- Whether the category of a character is one of a list. -/
def inCategories (cs : List Category) (c : Char) : Bool := cs.contains (Category.of c)

end Sift.Unicode
