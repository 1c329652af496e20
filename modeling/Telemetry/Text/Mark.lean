import Telemetry.Text.CharSet
/-!
# Text — marks

Characters that belong to the one before them: accents, vowel signs and
the like. Marks with different classes stand at different places, so that
their order does not matter; a class of 0 means that it does. The tables
are those of Unicode 15, less the characters that have another form.
-/

namespace Telemetry

namespace Text

/-- Marks without a width of their own. -/
def nonspacingMarks : CharSet := .ofTable "
300-36f 483-489 591-5bd 5bf 5c1-5c2 5c4-5c5 5c7 610-61a 64b-65f 670 6d6-6dc 6df-6e4 6e7-6e8
6ea-6ed 711 730-74a 7a6-7b0 7eb-7f3 7fd 816-819 81b-823 825-827 829-82d 859-85b 898-89f 8ca-902
93a 93c 941-948 94d 951-957 962-963 981 9bc 9c1-9c4 9cd 9e2-9e3 9fe-a02 a3c a41-a51 a70-a71 a75
a81-a82 abc ac1-ac8 acd ae2-ae3 afa-b01 b3c b3f b41-b44 b4d-b56 b62-b63 b82 bc0 bcd c00 c04 c3c
c3e-c40 c46-c56 c62-c63 c81 cbc cbf cc6 ccc-ccd ce2-ce3 d00-d01 d3b-d3c d41-d44 d4d d62-d63 d81
dca dd2-dd6 e31 e34-e3a e47-e4e eb1 eb4-ebc ec8-ece f18-f19 f35 f37 f39 f71-f7e f80-f84 f86-f87
f8d-fbc fc6 102d-1030 1032-1037 1039-103a 103d-103e 1058-1059 105e-1060 1071-1074 1082 1085-1086
108d 109d 135d-135f 1712-1714 1732-1733 1752-1753 1772-1773 17b7-17bd 17c6 17c9-17d3 17dd
1885-1886 18a9 1920-1922 1927-1928 1932 1939-193b 1a17-1a18 1a1b 1a56 1a58-1a60 1a62 1a65-1a6c
1a73-1a7f 1ab0-1b03 1b34 1b36-1b3a 1b3c 1b42 1b6b-1b73 1b80-1b81 1ba2-1ba5 1ba8-1ba9 1bab-1bad
1be6 1be8-1be9 1bed 1bef-1bf1 1c2c-1c33 1c36-1c37 1cd0-1cd2 1cd4-1ce0 1ce2-1ce8 1ced 1cf4
1cf8-1cf9 1dc0-1dff 20d0-20f0 2cef-2cf1 2d7f 2de0-2dff 302a-302d 3099-309a a66f-a672 a674-a67d
a69e-a69f a6f0-a6f1 a802 a806 a80b a825-a826 a82c a8c4-a8c5 a8e0-a8f1 a8ff a926-a92d a947-a951
a980-a982 a9b3 a9b6-a9b9 a9bc-a9bd a9e5 aa29-aa2e aa31-aa32 aa35-aa36 aa43 aa4c aa7c aab0
aab2-aab4 aab7-aab8 aabe-aabf aac1 aaec-aaed aaf6 abe5 abe8 abed fb1e fe20-fe2f 101fd 102e0
10376-1037a 10a01-10a0f 10a38-10a3f 10ae5-10ae6 10d24-10d27 10eab-10eac 10efd-10eff 10f46-10f50
10f82-10f85 11001 11038-11046 11070 11073-11074 1107f-11081 110b3-110b6 110b9-110ba 110c2
11100-11102 11127-1112b 1112d-11134 11173 11180-11181 111b6-111be 111c9-111cc 111cf 1122f-11231
11234 11236-11237 1123e 11241 112df 112e3-112ea 11300-11301 1133b-1133c 11340 11366-11374
11438-1143f 11442-11444 11446 1145e 114b3-114b8 114ba 114bf-114c0 114c2-114c3 115b2-115b5
115bc-115bd 115bf-115c0 115dc-115dd 11633-1163a 1163d 1163f-11640 116ab 116ad 116b0-116b5 116b7
1171d-1171f 11722-11725 11727-1172b 1182f-11837 11839-1183a 1193b-1193c 1193e 11943 119d4-119db
119e0 11a01-11a0a 11a33-11a38 11a3b-11a3e 11a47 11a51-11a56 11a59-11a5b 11a8a-11a96 11a98-11a99
11c30-11c3d 11c3f 11c92-11ca7 11caa-11cb0 11cb2-11cb3 11cb5-11cb6 11d31-11d45 11d47 11d90-11d91
11d95 11d97 11ef3-11ef4 11f00-11f01 11f36-11f3a 11f40 11f42 13440 13447-13455 16af0-16af4
16b30-16b36 16f4f 16f8f-16f92 16fe4 1bc9d-1bc9e 1cf00-1cf46 1d167-1d169 1d17b-1d182 1d185-1d18b
1d1aa-1d1ad 1d242-1d244 1da00-1da36 1da3b-1da6c 1da75 1da84 1da9b-1daaf 1e000-1e08f 1e130-1e136
1e2ae 1e2ec-1e2ef 1e4ec-1e4ef 1e8d0-1e8d6 1e944-1e94a"

/-- Marks with a width of their own. -/
def spacingMarks : CharSet := .ofTable "
903 93b 93e-940 949-94c 94e-94f 982-983 9be-9c0 9c7-9cc 9d7 a03 a3e-a40 a83 abe-ac0 ac9-acc
b02-b03 b3e b40 b47-b4c b57 bbe-bbf bc1-bcc bd7 c01-c03 c41-c44 c82-c83 cbe cc0-cc4 cc7-ccb
cd5-cd6 cf3 d02-d03 d3e-d40 d46-d4c d57 d82-d83 dcf-dd1 dd8-ddf df2-df3 f3e-f3f f7f 102b-102c 1031
1038 103b-103c 1056-1057 1062-1064 1067-106d 1083-1084 1087-108c 108f 109a-109c 1715 1734 17b6
17be-17c5 17c7-17c8 1923-1926 1929-1931 1933-1938 1a19-1a1a 1a55 1a57 1a61 1a63-1a64 1a6d-1a72
1b04 1b35 1b3b 1b3d-1b41 1b43-1b44 1b82 1ba1 1ba6-1ba7 1baa 1be7 1bea-1bec 1bee 1bf2-1bf3
1c24-1c2b 1c34-1c35 1ce1 1cf7 302e-302f a823-a824 a827 a880-a881 a8b4-a8c3 a952-a953 a983
a9b4-a9b5 a9ba-a9bb a9be-a9c0 aa2f-aa30 aa33-aa34 aa4d aa7b aa7d aaeb aaee-aaef aaf5 abe3-abe4
abe6-abe7 abe9-abea abec 11000 11002 11082 110b0-110b2 110b7-110b8 1112c 11145-11146 11182
111b3-111b5 111bf-111c0 111ce 1122c-1122e 11232-11233 11235 112e0-112e2 11302-11303 1133e-1133f
11341-1134d 11357 11362-11363 11435-11437 11440-11441 11445 114b0-114b2 114b9 114bb-114be 114c1
115af-115b1 115b8-115bb 115be 11630-11632 1163b-1163c 1163e 116ac 116ae-116af 116b6 11720-11721
11726 1182c-1182e 11838 11930-11938 1193d 11940 11942 119d1-119d3 119dc-119df 119e4 11a39
11a57-11a58 11a97 11c2f 11c3e 11ca9 11cb1 11cb4 11d8a-11d8e 11d93-11d94 11d96 11ef5-11ef6 11f03
11f34-11f35 11f3e-11f3f 11f41 16f51-16f87 16ff0-16ff1 1d165-1d166 1d16d-1d172"

/-- Whether a character is a mark. -/
def isMark (c : Char) : Bool := nonspacingMarks.contains c || spacingMarks.contains c

/-- The marks of each class; the class stands before the colon. -/
def markClasses : Array (Nat × CharRange) :=
  ((tableWords "
1:334-338 1:1cd4 1:1ce2-1ce8 1:20d2-20d3 1:20d8-20da 1:20e5-20e6 1:20ea-20eb 1:10a39 1:16af0-16af4
1:1bc9e 1:1d167-1d169 6:16ff0-16ff1 7:93c 7:9bc 7:a3c 7:abc 7:b3c 7:c3c 7:cbc 7:1037 7:1b34 7:1be6
7:1c37 7:a9b3 7:110ba 7:11173 7:111ca 7:11236 7:112e9 7:1133b-1133c 7:11446 7:114c3 7:115c0
7:116b7 7:1183a 7:11943 7:11d42 7:1e94a 8:3099-309a 9:94d 9:9cd 9:a4d 9:acd 9:b4d 9:bcd 9:c4d
9:ccd 9:d3b-d3c 9:d4d 9:dca 9:e3a 9:eba 9:f84 9:1039-103a 9:1714-1715 9:1734 9:17d2 9:1a60 9:1b44
9:1baa-1bab 9:1bf2-1bf3 9:2d7f 9:a806 9:a82c 9:a8c4 9:a953 9:a9c0 9:aaf6 9:abed 9:10a3f 9:11046
9:11070 9:1107f 9:110b9 9:11133-11134 9:111c0 9:11235 9:112ea 9:1134d 9:11442 9:114c2 9:115bf
9:1163f 9:116b6 9:1172b 9:11839 9:1193d-1193e 9:119e0 9:11a34 9:11a47 9:11a99 9:11c3f
9:11d44-11d45 9:11d97 9:11f41-11f42 a:5b0 b:5b1 c:5b2 d:5b3 e:5b4 f:5b5 10:5b6 11:5b7 12:5b8
12:5c7 13:5b9-5ba 14:5bb 15:5bc 16:5bd 17:5bf 18:5c1 19:5c2 1a:fb1e 1b:64b 1b:8f0 1c:64c 1c:8f1
1d:64d 1d:8f2 1e:618 1e:64e 1f:619 1f:64f 20:61a 20:650 21:651 22:652 23:670 24:711 54:c55 5b:c56
67:e38-e39 6b:e48-e4b 76:eb8-eb9 7a:ec8-ecb 81:f71 82:f72 82:f7a-f7d 82:f80 84:f74 ca:321-322
ca:327-328 ca:1dd0 d6:1dce d8:31b d8:f39 d8:1d165-1d166 d8:1d16e-1d172 da:1dfa da:302a dc:316-319
dc:31c-320 dc:323-326 dc:329-333 dc:339-33c dc:347-349 dc:34d-34e dc:353-356 dc:359-35a dc:591
dc:596 dc:59b dc:5a2-5a7 dc:5aa dc:5c5 dc:655-656 dc:65c dc:65f dc:6e3 dc:6ea dc:6ed dc:731 dc:734
dc:737-739 dc:73b-73c dc:73e dc:742 dc:744 dc:746 dc:748 dc:7f2 dc:7fd dc:859-85b dc:899-89b
dc:8cf-8d3 dc:8e3 dc:8e6 dc:8e9 dc:8ed-8ef dc:8f6 dc:8f9-8fa dc:952 dc:f18-f19 dc:f35 dc:f37
dc:fc6 dc:108d dc:193b dc:1a18 dc:1a7f dc:1ab5-1aba dc:1abd dc:1abf-1ac0 dc:1ac3-1ac4 dc:1aca
dc:1b6c dc:1cd5-1cd9 dc:1cdc-1cdf dc:1ced dc:1dc2 dc:1dca dc:1dcf dc:1df9 dc:1dfd dc:1dff dc:20e8
dc:20ec-20ef dc:a92b-a92d dc:aab4 dc:fe27-fe2d dc:101fd dc:102e0 dc:10a0d dc:10a3a dc:10ae6
dc:10efd-10eff dc:10f46-10f47 dc:10f4b dc:10f4d-10f50 dc:10f83 dc:10f85 dc:1d17b-1d182
dc:1d18a-1d18b dc:1e4ee dc:1e8d0-1e8d6 de:59a de:5ad de:1939 de:302d e0:302e-302f e2:1d16d e4:5ae
e4:18a9 e4:1df7-1df8 e4:302b e6:300-314 e6:33d-346 e6:34a-34c e6:350-352 e6:357 e6:35b e6:363-36f
e6:483-487 e6:592-595 e6:597-599 e6:59c-5a1 e6:5a8-5a9 e6:5ab-5ac e6:5af e6:5c4 e6:610-617
e6:653-654 e6:657-65b e6:65d-65e e6:6d6-6dc e6:6df-6e2 e6:6e4 e6:6e7-6e8 e6:6eb-6ec e6:730
e6:732-733 e6:735-736 e6:73a e6:73d e6:73f-741 e6:743 e6:745 e6:747 e6:749-74a e6:7eb-7f1 e6:7f3
e6:816-819 e6:81b-823 e6:825-827 e6:829-82d e6:898 e6:89c-89f e6:8ca-8ce e6:8d4-8e1 e6:8e4-8e5
e6:8e7-8e8 e6:8ea-8ec e6:8f3-8f5 e6:8f7-8f8 e6:8fb-8ff e6:951 e6:953-954 e6:9fe e6:f82-f83
e6:f86-f87 e6:135d-135f e6:17dd e6:193a e6:1a17 e6:1a75-1a7c e6:1ab0-1ab4 e6:1abb-1abc
e6:1ac1-1ac2 e6:1ac5-1ac9 e6:1acb-1ace e6:1b6b e6:1b6d-1b73 e6:1cd0-1cd2 e6:1cda-1cdb e6:1ce0
e6:1cf4 e6:1cf8-1cf9 e6:1dc0-1dc1 e6:1dc3-1dc9 e6:1dcb-1dcc e6:1dd1-1df5 e6:1dfb e6:1dfe
e6:20d0-20d1 e6:20d4-20d7 e6:20db-20dc e6:20e1 e6:20e7 e6:20e9 e6:20f0 e6:2cef-2cf1 e6:2de0-2dff
e6:a66f e6:a674-a67d e6:a69e-a69f e6:a6f0-a6f1 e6:a8e0-a8f1 e6:aab0 e6:aab2-aab3 e6:aab7-aab8
e6:aabe-aabf e6:aac1 e6:fe20-fe26 e6:fe2e-fe2f e6:10376-1037a e6:10a0f e6:10a38 e6:10ae5
e6:10d24-10d27 e6:10eab-10eac e6:10f48-10f4a e6:10f4c e6:10f82 e6:10f84 e6:11100-11102
e6:11366-11374 e6:1145e e6:16b30-16b36 e6:1d185-1d189 e6:1d1aa-1d1ad e6:1d242-1d244 e6:1e000-1e08f
e6:1e130-1e136 e6:1e2ae e6:1e2ec-1e2ef e6:1e4ef e6:1e944-1e949 e8:315 e8:31a e8:358 e8:1df6
e8:302c e8:1e4ec-1e4ed e9:35c e9:35f e9:362 e9:1dfc ea:35d-35e ea:360-361 ea:1dcd").map fun w =>
    (hexValue (w.takeWhile (· != ':')), CharRange.ofWord ((w.dropWhile (· != ':')).drop 1))).toArray

/-- The class of a mark. -/
def markClass (c : Char) : Nat :=
  match markClasses.find? fun r => r.2.contains c with
  | some (k, _) => k
  | none => 0

/-- Whether a character is a mark that drops the vowel of the letter
before it. -/
def isVowelKiller (c : Char) : Bool := markClass c == 9

end Text

end Telemetry
