import ProxyTunnel.Unicode.RangeMap

/-!
# Marks, joining and writing direction

The properties of characters that decide whether they may stand together in a label of a domain
name: whether a character is a mark, how it joins its neighbours in cursive scripts, and its
direction. The tables cover the characters that a mapped domain name can hold.
-/

namespace ProxyTunnel.Unicode

/-- Characters that stand on another character. -/
def marks : RangeSet := RangeSet.ofText "
  300-36f 483-489 591-5bd 5bf 5c1-5c2 5c4-5c5 5c7 610-61a 64b-65f 670 6d6-6dc 6df-6e4 6e7-6e8
  6ea-6ed 711 730-74a 7a6-7b0 7eb-7f3 7fd 816-819 81b-823 825-827 829-82d 859-85b 897-89f
  8ca-903 93a-93c 93e-94f 951-957 962-963 981-983 9bc 9be-9cd 9d7 9e2-9e3 9fe-a03 a3c-a51
  a70-a71 a75 a81-a83 abc abe-acd ae2-ae3 afa-b03 b3c b3e-b57 b62-b63 b82 bbe-bcd bd7 c00-c04
  c3c c3e-c56 c62-c63 c81-c83 cbc cbe-cd6 ce2-ce3 cf3-d03 d3b-d3c d3e-d4d d57 d62-d63 d81-d83
  dca-ddf df2-df3 e31 e34-e3a e47-e4e eb1 eb4-ebc ec8-ece f18-f19 f35 f37 f39 f3e-f3f f71-f84
  f86-f87 f8d-fbc fc6 102b-103e 1056-1059 105e-1060 1062-1064 1067-106d 1071-1074 1082-108d
  108f 109a-109d 135d-135f 1712-1715 1732-1734 1752-1753 1772-1773 17b6-17d3 17dd 1885-1886
  18a9 1920-193b 1a17-1a1b 1a55-1a7f 1ab0-1b04 1b34-1b44 1b6b-1b73 1b80-1b82 1ba1-1bad
  1be6-1bf3 1c24-1c37 1cd0-1cd2 1cd4-1ce8 1ced 1cf4 1cf7-1cf9 1dc0-1dff 20d0-20f0 2cef-2cf1
  2d7f 2de0-2dff 302a-302f 3099-309a a66f-a672 a674-a67d a69e-a69f a6f0-a6f1 a802 a806 a80b
  a823-a827 a82c a880-a881 a8b4-a8c5 a8e0-a8f1 a8ff a926-a92d a947-a953 a980-a983 a9b3-a9c0
  a9e5 aa29-aa36 aa43 aa4c-aa4d aa7b-aa7d aab0 aab2-aab4 aab7-aab8 aabe-aabf aac1 aaeb-aaef
  aaf5-aaf6 abe3-abea abec-abed fb1e fe20-fe2f 101fd 102e0 10376-1037a 10a01-10a0f 10a38-10a3f
  10ae5-10ae6 10d24-10d27 10d69-10d6d 10eab-10eac 10efa-10eff 10f46-10f50 10f82-10f85
  11000-11002 11038-11046 11070 11073-11074 1107f-11082 110b0-110ba 110c2 11100-11102
  11127-11134 11145-11146 11173 11180-11182 111b3-111c0 111c9-111cc 111ce-111cf 1122c-11237
  1123e 11241 112df-112ea 11300-11303 1133b-1133c 1133e-1134d 11357 11362-11374 113b8-113d2
  113e1-113e2 11435-11446 1145e 114b0-114c3 115af-115c0 115dc-115dd 11630-11640 116ab-116b7
  1171d-1172b 1182c-1183a 11930-1193e 11940 11942-11943 119d1-119e0 119e4 11a01-11a0a
  11a33-11a39 11a3b-11a3e 11a47 11a51-11a5b 11a8a-11a99 11b60-11b67 11c2f-11c3f 11c92-11cb6
  11d31-11d45 11d47 11d8a-11d97 11ef3-11ef6 11f00-11f01 11f03 11f34-11f42 13440 13447-13455
  1611e-1612f 16af0-16af4 16b30-16b36 16f4f 16f51-16f92 16fe4-16ff1 1bc9d-1bc9e 1cf00-1cf46
  1d165-1d169 1d16d-1d182 1d185-1d18b 1d1aa-1d1ad 1d242-1d244 1da00-1da36 1da3b-1da6c 1da75
  1da84 1da9b-1daaf 1e000-1e08f 1e130-1e136 1e2ae 1e2ec-1e2ef 1e4ec-1e4ef 1e5ee-1e5ef 1e6e3
  1e6e6 1e6ee-1e6ef 1e6f5 1e8d0-1e8d6 1e944-1e94a"

/-- Whether a character is a mark. -/
def isMark (c : Char) : Bool := 0x300 ≤ c.toNat && marks.contains c

/-- How a letter of a cursive script joins its neighbours. -/
inductive JoiningType where
  | left
  | right
  | dual
  | transparent
  | none
  deriving DecidableEq, Repr

/-- Reads the letter that stands for a joining type. -/
def JoiningType.ofText : List Char → JoiningType
  | ['L'] => .left
  | ['R'] => .right
  | ['D'] => .dual
  | ['T'] => .transparent
  | _ => .none

/-- Joining types other than `none`. -/
def joiningTypes : RangeMap JoiningType := RangeMap.ofText JoiningType.ofText "
  300-36f:T 483-489:T 591-5bd:T 5bf:T 5c1-5c2:T 5c4-5c5:T 5c7:T 610-61a:T 620:D 622-625:R
  626:D 627:R 628:D 629:R 62a-62e:D 62f-632:R 633-63f:D 641-647:D 648:R 649-64a:D 64b-65f:T
  66e-66f:D 670:T 671-673:R 679-687:D 688-699:R 69a-6bf:D 6c0:R 6c1-6c2:D 6c3-6cb:R 6cc:D
  6cd:R 6ce:D 6cf:R 6d0-6d1:D 6d2-6d3:R 6d5:R 6d6-6dc:T 6df-6e4:T 6e7-6e8:T 6ea-6ed:T
  6ee-6ef:R 6fa-6fc:D 6ff:D 710:R 711:T 712-714:D 715-719:R 71a-71d:D 71e:R 71f-727:D 728:R
  729:D 72a:R 72b:D 72c:R 72d-72e:D 72f:R 730-74a:T 74d:R 74e-758:D 759-75b:R 75c-76a:D
  76b-76c:R 76d-770:D 771:R 772:D 773-774:R 775-777:D 778-779:R 77a-77f:D 7a6-7b0:T 7ca-7ea:D
  7eb-7f3:T 7fd:T 816-819:T 81b-823:T 825-827:T 829-82d:T 840:R 841-845:D 846-847:R 848:D
  849:R 84a-853:D 854:R 855:D 856-858:R 859-85b:T 860:D 862-865:D 867:R 868:D 869-882:R 886:D
  889-88d:D 88e:R 88f:D 897-89f:T 8a0-8a9:D 8aa-8ac:R 8ae:R 8af-8b0:D 8b1-8b2:R 8b3-8b8:D
  8b9:R 8ba-8c8:D 8ca-902:T 93a:T 93c:T 941-948:T 94d:T 951-957:T 962-963:T 981:T 9bc:T
  9c1-9c4:T 9cd:T 9e2-9e3:T 9fe-a02:T a3c:T a41-a51:T a70-a71:T a75:T a81-a82:T abc:T
  ac1-ac8:T acd:T ae2-ae3:T afa-b01:T b3c:T b3f:T b41-b44:T b4d-b56:T b62-b63:T b82:T bc0:T
  bcd:T c00:T c04:T c3c:T c3e-c40:T c46-c56:T c62-c63:T c81:T cbc:T cbf:T cc6:T ccc-ccd:T
  ce2-ce3:T d00-d01:T d3b-d3c:T d41-d44:T d4d:T d62-d63:T d81:T dca:T dd2-dd6:T e31:T
  e34-e3a:T e47-e4e:T eb1:T eb4-ebc:T ec8-ece:T f18-f19:T f35:T f37:T f39:T f71-f7e:T
  f80-f84:T f86-f87:T f8d-fbc:T fc6:T 102d-1030:T 1032-1037:T 1039-103a:T 103d-103e:T
  1058-1059:T 105e-1060:T 1071-1074:T 1082:T 1085-1086:T 108d:T 109d:T 135d-135f:T 1712-1714:T
  1732-1733:T 1752-1753:T 1772-1773:T 17b7-17bd:T 17c6:T 17c9-17d3:T 17dd:T 1807:D 1820-1878:D
  1885-1886:T 1887-18a8:D 18a9:T 18aa:D 1920-1922:T 1927-1928:T 1932:T 1939-193b:T 1a17-1a18:T
  1a1b:T 1a56:T 1a58-1a60:T 1a62:T 1a65-1a6c:T 1a73-1a7f:T 1ab0-1b03:T 1b34:T 1b36-1b3a:T
  1b3c:T 1b42:T 1b6b-1b73:T 1b80-1b81:T 1ba2-1ba5:T 1ba8-1ba9:T 1bab-1bad:T 1be6:T 1be8-1be9:T
  1bed:T 1bef-1bf1:T 1c2c-1c33:T 1c36-1c37:T 1cd0-1cd2:T 1cd4-1ce0:T 1ce2-1ce8:T 1ced:T 1cf4:T
  1cf8-1cf9:T 1dc0-1dff:T 20d0-20f0:T 2cef-2cf1:T 2d7f:T 2de0-2dff:T 302a-302d:T 3099-309a:T
  a66f-a672:T a674-a67d:T a69e-a69f:T a6f0-a6f1:T a802:T a806:T a80b:T a825-a826:T a82c:T
  a840-a871:D a872:L a8c4-a8c5:T a8e0-a8f1:T a8ff:T a926-a92d:T a947-a951:T a980-a982:T a9b3:T
  a9b6-a9b9:T a9bc-a9bd:T a9e5:T aa29-aa2e:T aa31-aa32:T aa35-aa36:T aa43:T aa4c:T aa7c:T
  aab0:T aab2-aab4:T aab7-aab8:T aabe-aabf:T aac1:T aaec-aaed:T aaf6:T abe5:T abe8:T abed:T
  fb1e:T fe20-fe2f:T 101fd:T 102e0:T 10376-1037a:T 10a01-10a0f:T 10a38-10a3f:T 10ac0-10ac4:D
  10ac5:R 10ac7:R 10ac9-10aca:R 10acd:L 10ace-10ad2:R 10ad3-10ad6:D 10ad7:L 10ad8-10adc:D
  10add:R 10ade-10ae0:D 10ae1:R 10ae4:R 10ae5-10ae6:T 10aeb-10aee:D 10aef:R 10b80:D 10b81:R
  10b82:D 10b83-10b85:R 10b86-10b88:D 10b89:R 10b8a-10b8b:D 10b8c:R 10b8d:D 10b8e-10b8f:R
  10b90:D 10b91:R 10ba9-10bac:R 10bad-10bae:D 10d00:L 10d01-10d21:D 10d22:R 10d23:D
  10d24-10d27:T 10d69-10d6d:T 10eab-10eac:T 10ec2:R 10ec3-10ec4:D 10ec6-10ec7:D 10efa-10eff:T
  10f30-10f32:D 10f33:R 10f34-10f44:D 10f46-10f50:T 10f51-10f53:D 10f54:R 10f70-10f73:D
  10f74-10f75:R 10f76-10f81:D 10f82-10f85:T 10fb0:D 10fb2-10fb3:D 10fb4-10fb6:R 10fb8:D
  10fb9-10fba:R 10fbb-10fbc:D 10fbd:R 10fbe-10fbf:D 10fc1:D 10fc2-10fc3:R 10fc4:D 10fc9:R
  10fca:D 10fcb:L 11001:T 11038-11046:T 11070:T 11073-11074:T 1107f-11081:T 110b3-110b6:T
  110b9-110ba:T 110c2:T 11100-11102:T 11127-1112b:T 1112d-11134:T 11173:T 11180-11181:T
  111b6-111be:T 111c9-111cc:T 111cf:T 1122f-11231:T 11234:T 11236-11237:T 1123e:T 11241:T
  112df:T 112e3-112ea:T 11300-11301:T 1133b-1133c:T 11340:T 11366-11374:T 113b8-113d2:T
  113e1-113e2:T 11438-1143f:T 11442-11444:T 11446:T 1145e:T 114b3-114b8:T 114ba:T
  114bf-114c0:T 114c2-114c3:T 115b2-115b5:T 115bc-115bd:T 115bf-115c0:T 115dc-115dd:T
  11633-1163a:T 1163d:T 1163f-11640:T 116ab:T 116ad:T 116b0-116b5:T 116b7:T 1171d-1171f:T
  11722-11725:T 11727-1172b:T 1182f-11837:T 11839-1183a:T 1193b-1193c:T 1193e:T 11943:T
  119d4-119db:T 119e0:T 11a01-11a0a:T 11a33-11a38:T 11a3b-11a3e:T 11a47:T 11a51-11a56:T
  11a59-11a5b:T 11a8a-11a96:T 11a98-11a99:T 11b60-11b67:T 11c30-11c3d:T 11c3f:T 11c92-11ca7:T
  11caa-11cb0:T 11cb2-11cb3:T 11cb5-11cb6:T 11d31-11d45:T 11d47:T 11d90-11d91:T 11d95:T
  11d97:T 11ef3-11ef4:T 11f00-11f01:T 11f36-11f3a:T 11f40:T 11f42:T 11f5a:T 13440:T
  13447-13455:T 1611e-1612f:T 16af0-16af4:T 16b30-16b36:T 16f4f:T 16f8f-16f92:T 16fe4:T
  1bc9d-1bc9e:T 1cf00-1cf46:T 1d167-1d169:T 1d17b-1d182:T 1d185-1d18b:T 1d1aa-1d1ad:T
  1d242-1d244:T 1da00-1da36:T 1da3b-1da6c:T 1da75:T 1da84:T 1da9b-1daaf:T 1e000-1e08f:T
  1e130-1e136:T 1e2ae:T 1e2ec-1e2ef:T 1e4ec-1e4ef:T 1e5ee-1e5ef:T 1e6e3:T 1e6e6:T
  1e6ee-1e6ef:T 1e6f5:T 1e8d0-1e8d6:T 1e922-1e943:D 1e944-1e94b:T"

/-- How a character joins. -/
def joiningType (c : Char) : JoiningType := (joiningTypes.get? c).getD .none

/-- The direction of a character. -/
inductive Direction where
  /-- A letter written from left to right. -/
  | left
  /-- A letter written from right to left, `arabic` if of the Arabic kind. -/
  | right
  | arabic
  /-- Digits: European and Arabic-Indic. -/
  | european
  | arabicNumber
  /-- Signs that go with digits. -/
  | europeanSeparator
  | commonSeparator
  | europeanTerminator
  /-- Other signs. -/
  | neutral
  /-- Characters without a direction. -/
  | boundary
  /-- Marks, which take the direction of the character they stand on. -/
  | mark
  /-- Separators of paragraphs and segments, and blanks. -/
  | space
  deriving DecidableEq, Repr

/-- Reads the abbreviation that stands for a direction. -/
def Direction.ofText : List Char → Direction
  | ['R'] => .right
  | ['A', 'L'] => .arabic
  | ['E', 'N'] => .european
  | ['A', 'N'] => .arabicNumber
  | ['E', 'S'] => .europeanSeparator
  | ['C', 'S'] => .commonSeparator
  | ['E', 'T'] => .europeanTerminator
  | ['O', 'N'] => .neutral
  | ['B', 'N'] => .boundary
  | ['N', 'S', 'M'] => .mark
  | ['O'] => .space
  | _ => .left

/-- Directions other than `left`. -/
def directions : RangeMap Direction := RangeMap.ofText Direction.ofText "
  0-8:BN 9:O a:O b:O c:O d:O e-1b:BN 1c-1e:O 1f:O 20:O 21-22:ON 23-25:ET 26-2a:ON 2b:ES 2c:CS
  2d:ES 2e-2f:CS 30-39:EN 3a:CS 3b-60:ON 7b-7e:ON 7f:BN a1:ON a2-a5:ET a6-ae:ON b0-b1:ET
  b6-d7:ON f7:ON 2b9-2ba:ON 2c2-2cf:ON 2d2-2ed:ON 2ef-2ff:ON 300-36f:NSM 375:ON 3f6:ON
  483-489:NSM 58a-58e:ON 58f:ET 591-5bd:NSM 5be:R 5bf:NSM 5c0:R 5c1-5c2:NSM 5c3:R 5c4-5c5:NSM
  5c6:R 5c7:NSM 5d0-5f4:R 606-607:ON 608:AL 609-60a:ET 60b:AL 60c:CS 60d:AL 60e-60f:ON
  610-61a:NSM 61b-64a:AL 64b-65f:NSM 660-669:AN 66a:ET 66b-66c:AN 66d-66f:AL 670:NSM
  671-6d5:AL 6d6-6dc:NSM 6de:ON 6df-6e4:NSM 6e5-6e6:AL 6e7-6e8:NSM 6e9:ON 6ea-6ed:NSM
  6ee-6ef:AL 6f0-6f9:EN 6fa-710:AL 711:NSM 712-72f:AL 730-74a:NSM 74d-7a5:AL 7a6-7b0:NSM
  7b1:AL 7c0-7ea:R 7eb-7f3:NSM 7f4-7f5:R 7f6-7f9:ON 7fa:R 7fd:NSM 7fe-815:R 816-819:NSM 81a:R
  81b-823:NSM 824:R 825-827:NSM 828:R 829-82d:NSM 830-858:R 859-85b:NSM 85e:R 860-88f:AL
  897-89f:NSM 8a0-8c9:AL 8ca-902:NSM 93a:NSM 93c:NSM 941-948:NSM 94d:NSM 951-957:NSM
  962-963:NSM 981:NSM 9bc:NSM 9c1-9c4:NSM 9cd:NSM 9e2-9e3:NSM 9f2-9f3:ET 9fb:ET 9fe-a02:NSM
  a3c:NSM a41-a51:NSM a70-a71:NSM a75:NSM a81-a82:NSM abc:NSM ac1-ac8:NSM acd:NSM ae2-ae3:NSM
  af1:ET afa-b01:NSM b3c:NSM b3f:NSM b41-b44:NSM b4d-b56:NSM b62-b63:NSM b82:NSM bc0:NSM
  bcd:NSM bf3-bf8:ON bf9:ET bfa:ON c00:NSM c04:NSM c3c:NSM c3e-c40:NSM c46-c56:NSM c62-c63:NSM
  c78-c7e:ON c81:NSM cbc:NSM ccc-ccd:NSM ce2-ce3:NSM d00-d01:NSM d3b-d3c:NSM d41-d44:NSM
  d4d:NSM d62-d63:NSM d81:NSM dca:NSM dd2-dd6:NSM e31:NSM e34-e3a:NSM e3f:ET e47-e4e:NSM
  eb1:NSM eb4-ebc:NSM ec8-ece:NSM f18-f19:NSM f35:NSM f37:NSM f39:NSM f3a-f3d:ON f71-f7e:NSM
  f80-f84:NSM f86-f87:NSM f8d-fbc:NSM fc6:NSM 102d-1030:NSM 1032-1037:NSM 1039-103a:NSM
  103d-103e:NSM 1058-1059:NSM 105e-1060:NSM 1071-1074:NSM 1082:NSM 1085-1086:NSM 108d:NSM
  109d:NSM 135d-135f:NSM 1390-1399:ON 1400:ON 169b-169c:ON 1712-1714:NSM 1732-1733:NSM
  1752-1753:NSM 1772-1773:NSM 17b7-17bd:NSM 17c6:NSM 17c9-17d3:NSM 17db:ET 17dd:NSM
  17f0-180a:ON 1885-1886:NSM 18a9:NSM 1920-1922:NSM 1927-1928:NSM 1932:NSM 1939-193b:NSM
  1940-1945:ON 19de-19ff:ON 1a17-1a18:NSM 1a1b:NSM 1a56:NSM 1a58-1a60:NSM 1a62:NSM
  1a65-1a6c:NSM 1a73-1a7f:NSM 1ab0-1b03:NSM 1b34:NSM 1b36-1b3a:NSM 1b3c:NSM 1b42:NSM
  1b6b-1b73:NSM 1b80-1b81:NSM 1ba2-1ba5:NSM 1ba8-1ba9:NSM 1bab-1bad:NSM 1be6:NSM 1be8-1be9:NSM
  1bed:NSM 1bef-1bf1:NSM 1c2c-1c33:NSM 1c36-1c37:NSM 1cd0-1cd2:NSM 1cd4-1ce0:NSM 1ce2-1ce8:NSM
  1ced:NSM 1cf4:NSM 1cf8-1cf9:NSM 1dc0-1dff:NSM 200c-200d:BN 2010-2027:ON 2030-2032:ET
  2035-2043:ON 2044:CS 2045-205e:ON 20a0-20c1:ET 20d0-20f0:NSM 2104-2129:ON 212e:ET
  213a-214d:ON 218a-2211:ON 2212:ES 2213:ET 2214-2335:ON 237b-2394:ON 2396-2426:ON
  2440-26ab:ON 26ad-27ff:ON 2900-2b95:ON 2b97-2bff:ON 2ce5-2cea:ON 2cef-2cf1:NSM 2cf9-2cff:ON
  2d7f:NSM 2de0-2dff:NSM 2e00-3004:ON 3008-3020:ON 302a-302d:NSM 3030:ON 3037:ON 303d-303f:ON
  3099-309a:NSM 30a0:ON 30fb:ON 31c0-31e3:ON 4dc0-4dff:ON a490-a4c6:ON a60d-a60f:ON
  a66f-a672:NSM a673:ON a674-a67d:NSM a67e-a67f:ON a69e-a69f:NSM a6f0-a6f1:NSM a700-a721:ON
  a788:ON a802:NSM a806:NSM a80b:NSM a825-a826:NSM a828-a82b:ON a82c:NSM a838-a839:ET
  a874-a877:ON a8c4-a8c5:NSM a8e0-a8f1:NSM a8ff:NSM a926-a92d:NSM a947-a951:NSM a980-a982:NSM
  a9b3:NSM a9b6-a9b9:NSM a9bc-a9bd:NSM a9e5:NSM aa29-aa2e:NSM aa31-aa32:NSM aa35-aa36:NSM
  aa43:NSM aa4c:NSM aa7c:NSM aab0:NSM aab2-aab4:NSM aab7-aab8:NSM aabe-aabf:NSM aac1:NSM
  aaec-aaed:NSM aaf6:NSM ab6a-ab6b:ON abe5:NSM abe8:NSM abed:NSM fb1e:NSM fbb2-fbd2:AL
  fd3e-fd4f:ON fd90-fdce:AL fdcf-fdff:ON fe20-fe2f:NSM fe45-fe46:ON fe73:AL 10101:ON
  10140-1018c:ON 10190-101a0:ON 101fd:NSM 102e0:NSM 102e1-102fb:EN 10376-1037a:NSM
  10800-1091b:R 1091f:ON 10920-10a00:R 10a01-10a0f:NSM 10a10-10a35:R 10a38-10a3f:NSM
  10a40-10ae4:R 10ae5-10ae6:NSM 10aeb-10b35:R 10b39-10b3f:ON 10b40-10cff:R 10d00-10d23:AL
  10d24-10d27:NSM 10d30-10d39:AN 10d40-10d4f:R 10d69-10d6d:NSM 10d6e-10d8f:R 10e60-10e7e:AN
  10e80-10ea9:R 10eab-10eac:NSM 10ead-10eb1:R 10ec2-10ed8:AL 10efa-10eff:NSM 10f00-10f27:R
  10f30-10f45:AL 10f46-10f50:NSM 10f51-10f59:AL 10f70-10f81:R 10f82-10f85:NSM 10f86-10ff6:R
  11001:NSM 11038-11046:NSM 11052-11065:ON 11070:NSM 11073-11074:NSM 1107f-11081:NSM
  110b3-110b6:NSM 110b9-110ba:NSM 110c2:NSM 11100-11102:NSM 11127-1112b:NSM 1112d-11134:NSM
  11173:NSM 11180-11181:NSM 111b6-111be:NSM 111c9-111cc:NSM 111cf:NSM 1122f-11231:NSM
  11234:NSM 11236-11237:NSM 1123e:NSM 11241:NSM 112df:NSM 112e3-112ea:NSM 11300-11301:NSM
  1133b-1133c:NSM 11340:NSM 11366-11374:NSM 113bb-113c0:NSM 113ce:NSM 113d0-113d2:NSM
  113e1-113e2:NSM 11438-1143f:NSM 11442-11444:NSM 11446:NSM 1145e:NSM 114b3-114b8:NSM
  114ba:NSM 114bf-114c0:NSM 114c2-114c3:NSM 115b2-115b5:NSM 115bc-115bd:NSM 115bf-115c0:NSM
  115dc-115dd:NSM 11633-1163a:NSM 1163d:NSM 1163f-11640:NSM 11660-1166c:ON 116ab:NSM 116ad:NSM
  116b0-116b5:NSM 116b7:NSM 1171d-1171f:NSM 11722-11725:NSM 11727-1172b:NSM 1182f-11837:NSM
  11839-1183a:NSM 1193b-1193c:NSM 1193e:NSM 11943:NSM 119d4-119db:NSM 119e0:NSM
  11a01-11a06:NSM 11a09-11a0a:NSM 11a33-11a38:NSM 11a3b-11a3e:NSM 11a47:NSM 11a51-11a56:NSM
  11a59-11a5b:NSM 11a8a-11a96:NSM 11a98-11a99:NSM 11b60:NSM 11b62-11b64:NSM 11b66:NSM
  11c30-11c3d:NSM 11c92-11ca7:NSM 11caa-11cb0:NSM 11cb2-11cb3:NSM 11cb5-11cb6:NSM
  11d31-11d45:NSM 11d47:NSM 11d90-11d91:NSM 11d95:NSM 11d97:NSM 11ef3-11ef4:NSM
  11f00-11f01:NSM 11f36-11f3a:NSM 11f40:NSM 11f42:NSM 11fd5-11fdc:ON 11fdd-11fe0:ET
  11fe1-11ff1:ON 13440:NSM 13447-13455:NSM 1611e-16129:NSM 1612d-1612f:NSM 16af0-16af4:NSM
  16b30-16b36:NSM 16f4f:NSM 16f8f-16f92:NSM 16fe2:ON 16fe4:NSM 1bc9d-1bc9e:NSM 1cf00-1cf46:NSM
  1d167-1d169:NSM 1d17b-1d182:NSM 1d185-1d18b:NSM 1d1aa-1d1ad:NSM 1d1e9-1d241:ON
  1d242-1d244:NSM 1d245:ON 1d300-1d356:ON 1da00-1da36:NSM 1da3b-1da6c:NSM 1da75:NSM 1da84:NSM
  1da9b-1daaf:NSM 1e000-1e08f:NSM 1e130-1e136:NSM 1e2ae:NSM 1e2ec-1e2ef:NSM 1e2ff:ET
  1e4ec-1e4ef:NSM 1e5ee-1e5ef:NSM 1e6e3:NSM 1e6e6:NSM 1e6ee-1e6ef:NSM 1e6f5:NSM 1e800-1e8cf:R
  1e8d0-1e8d6:NSM 1e922-1e943:R 1e944-1e94a:NSM 1e94b-1e95f:R 1ec71-1ed3d:AL 1eef0-1f12f:ON
  1f16d-1f16f:ON 1f1ad:ON 1f260-1f6d7:ON 1f6dc-1f776:ON 1f77b-1f8b1:ON 1f900-1fa53:ON
  1fa60-1fa88:ON 1fa90-1fabd:ON 1fabf-1fac5:ON 1face-1fadb:ON 1fae0-1fae8:ON 1faf0-1fbca:ON"

/-- The direction of a character. -/
def direction (c : Char) : Direction := (directions.get? c).getD .left

end ProxyTunnel.Unicode
