import DecoratorGraph.Pattern.CodePoints
/-!
# Binary properties

Code points with a yes-or-no property of Unicode (version 15). Where a property follows from the
general category up to exceptions, only the exceptions are listed.
-/

namespace DecoratorGraph.Pattern

def otherAlphabetic : CodePoints := .ofLines
  ["17BD 8E3 110B2 11A39 A676 A675 BBE DF2 1E00F 11CB1 AA35 1F17F 24BC 11303 AA36 A929 1B35 9E3",
   "618 1037A FBC 1F131 114B6 ABE6 11A55 5BF 1924 11129 1030 24E0 11A3C 1C2E 1E006 17C2 17C1",
   "24D6 11237 A926 A825 1F161 11930 EB4 11F39 1BE9 11CAE 11445 AAED 1F163 D48 16F77 73B-73C F9E",
   "1143B 1F150 AA43 24C7 1086 FAA 11724 BD7 2DF7 11831 1B04 A949 1936 11A5B 612 11347 11C2F",
   "109C CD5 103C 109B 11438 816 112E3 1A6E 111CF A8C3 1F144 DD1 730 5B1 106C 115BB 8F0 1C25",
   "11A8B 2DF0 DDB 11042 16F87 1A5B 737 1F15B 115B8 BCA DD4 24CE 11041 1A71 AA33 11301 B4B-B4C",
   "81D 11CB4 11CB3 24CD F80 64E 11357 108D FB1 1060 9C1 821 16F80 1BA2 1182E 11C3E AA7C 822",
   "AA7B 105F AAEE D62 E36 1F179 A71 A94A 1BE7 1F132 A4B 1103A 2DF8 1E000 1DF4 DDF D46 93B 5B8",
   "11A56 11F36 24E7 114B5 1931 11234 C00 24DD 11C94 6DC 16F79 D83 11044 16F7A 1927 EBB AC0",
   "11CAD ABE9 1F164 24C5 ABF EBC 6E1 112E5-112E6 1ACD-1ACE BC1 1F185 11A59 1A72 6E2 962 11C31",
   "11C97 11C32 17B6 10A0E 11A8E 11A8D 11CA6 11A36 11A08 A8C1 A9BA BCC 8F9 F83 F9A 11722 1F182",
   "1C34 119D4 11938 16F7C A8BB 111B6 11145 11231-11232 8D4 11F34 1C29 1057 11935 B43 A802 16F60",
   "1921 A8B5 616 941 A4C 1193B 11A90 192B 2DEE A67B 11C34 1134C 1E021 24CB 7A9 983 A8B8 10EAB",
   "1F167 111BD 1F171 112E8 C62 7AA 65F 1B3A F93 11CB6 1DE9 11942 1B39 1B01 11C9E C4B CCA 942",
   "115B5 24C0 6DB B63 1BED C41 1E018 F75 1F135 11D96 8E7 11A96 1E00B D03 FB8 65B 1E029 1E01C",
   "EB8 11C3C 11CA1 11C3B 1A6B 1034 11132 1182C 9C7 1F140 1C32 1E027 11639 5BC 1059 AFC 1122F",
   "94E 11131 11082 E4D 1F181 654 1BAD AFB 8E4 C44 949 11636 11435 1BEA 1923 115BC CBE 1112A",
   "1B36 18A9 981 1F153 11F3A 2DED BC6 1B03 1F15F 24C8 16F5F 1B41 11A93 A678 A82 11F01 93E 111BE",
   "2DFC 6D9 11832 1A17 1AC0 115B3 B3E FA2 11932 1F17D 1C26 119D3 ACB 900 2DE6 A40 7A7 652 F7C",
   "11721 8DB 1E02A 16F7F 1BA6 16F58 FA1 115DC 103B CD6 1F13A ABE3-ABE4 D42 8F2 1733 1DF0 11146",
   "1A6D 1E00C 10378 10377 2DFF 11C39 64D 1F15D A8BA A8B9 1BA1 11F35 11233 A83 EB5 1BE8 F8D",
   "11635 7AF 1C2F 11181 A9B8 F8E 1031 11081 1F17B 11C98 10D24 8F4 11230 8F3 1E013 A880 1163E",
   "24BD FA0 C82 C81 1122D AAB0 11A35 1DF2 114B8 AA30 655 AFA D44 11A06 11C3A 94C 613 656 F9F",
   "11241 1937 11362 E34 AA4D A42 1E020 902 11A97 A81 1C24 112DF 16F6C 106D 11343 F7E 5B7 2DFB",
   "11C9F-11CA0 11C3D 11101 114BF 1F183 115B4 1713 1182D 16F92 C46 1E014 115B1 8F1 11D94 BC8",
   "1143F 16F73 24C6 11038 1F155 944 16F91 1143C 1BA3 BCB 114C0 10EAC 64F 943 A8B7 11637 CC3 9CC",
   "11638 102F 16F74 1A70 103E 1C2D 11D93 1E00D 1F137 F81 111B5 11A05 6ED AA2F E37 11344 F9C",
   "1123E B01 11937 D02 112E0 D47 C55 24BB 11D8C AAB3 1935 FA7 611 8D5 1930 11F03 10376 8D6 B48",
   "1E01F D82 1926 CF3 A92A 106B 1F189 1C35-1C36 11C9B FBA F82 11A95 A94C 1F13E 115DD ABE5 11F00",
   "1B3B C63 CCC 65E 1773 7A8 11C9D 2DFD-2DFE BC0 5B9 1B3C 10379 A826 9D7 A9B7 1F142 11182 1F169",
   "1F173 10A03 A03 11D32 2DE4 ABE 5C5 11A3D-11A3E 1F175 16F6A A928 A927 11D3C 711 110B0 1BA4",
   "17C7 650 A677 982 1C28 17B8 119DE 116B4 A8BF 11D47 1A1B F9B 1F187 11931 617 11D43 940 17B7",
   "A823 AA34 11302 A824 1F151 24CA 1A73-1A74 1ACC A674 1071 11630 11CA5 24CC A8C2 FB9 ACC 8FF",
   "11EF4 1B38 E31 A3F F7B 1163A 11A5A 24C1 D41 1DEF 11443-11444 1F177 1143A 11439 1BEC 1BF1",
   "1F148 DD6 1F139 8E6 DDE A8C5 11D8B 16F55 1A65 1F159 102B 11C93 105E EB9 B62 5BA 6DA 820 1035",
   "111CE 1C33 CCB FAC B44 1F157 1088 1C30 1032 16F56 1922 5BD EB6 827 11CB5 1087 11A3B FAB AE3",
   "1E004 D4A AAB8 AAB7 73A 1A5E 1A56 732 F99 731 24BE 11CB2 1A55 817 1163D 1BAC 24D3 109A B57",
   "1F165 11CA2 1E008 11633 1058 1E023 AA7D 11A8C 16F62 F7D A41 901 11D3A DF3 FB7 1F178 119DD",
   "116B3 6E7 11437 1F133 112E4 614 1938 1E011 A8BC 1A6C 1083 1DF1 16F7B 9C8 D43 11C30 B3F 11441",
   "11348 1193C 24E2 16F69 17C0 7A6 24D7 10A0C 11A8F 116AC 119D6 24D8 1F15A 653 1B02 1BA7 24E1",
   "2DE3 BC7 112E7 AC5 61A 1732 619 1134B 11C33 11C96 11C95 16F78 1886 9E2 17BF 8D7 1933 16F57",
   "11000 610 82A 1934 659 1BA8 11C9C 1069 1133F-11340 1E00E 119E4 7B0 1E024 106A 11940 670 73E",
   "1B3D 1A62 1DE7 114BB-114BC 1E015 1772 11CA3 16F70 16F6F 1163C A02 1928 24DC B40 F73 A94D",
   "11A94 A01 24E6 1E012 11632 C3F ABEA 111B8 5C2 945 A8BD 10D27 1C2B D63 1F13D 1B82 102D-102E",
   "F91 1B81 9C0 EB1 FB0 11D8D 108C 17C4 1C2C 116B2 119DC 1A68 9C4 8F7 81C 1036 10A0D AA29 A8B6",
   "111BB DD3 24BA 5B3 16F68 24B9 736 CE2 1A5A 2DE2 A8FF DDD DDA 11834 2DE5 AAF5 1A5D 2DFA 657",
   "6E4 739 5B0 16F6B DD0 8D9 1A6F 110B1 CC4 9CB 1E01E 16F5D 103D 2DEB 81F 114B9 119DF 116B5",
   "108F FB3 9C3 5B5 A8BE 11837 5B6 1B3F C02 1E016 B02 1171F A94F-A950 16F5A F71 A9B4 C47 16F6D",
   "AC2 119D1 2DE8 C56 11CA4 11080 6D6 FA8 11F3F 24E9 1F188 947 10D25 64B B47 64C 24DF A980",
   "1112F D81 1062 1925 11631 11D90 F8F 1163B 1F143 AA2C AA2B 11D8A 11A01-11A02 ECD 1112C BBF",
   "1F184 8F5 A983 115BE 16F54 11634 24D0 C83 AC8 17BC 2DF5 1E08F 8FB A947 FB6 119D7 FB5 116AD",
   "114C1 11726 1F176 16F90 DCF 16F75 8DA 1143D 17C8 DD9 115AF AAEB 1E003 1C27 1F174 1F141 16F63",
   "24D9 16F52 2DF2 16F51 111B4 1F158 11729 93F 24E3 11436 D01 1B40 1F170 24C9 1F166 B82 CC7 956",
   "CC8 11A04 112E1 AA2E F95 11440 AAB2 1DEB A75 1B37 FAD 1089 7AC A69F 8E9 1BEB 11C9A C43 24B7",
   "1F134 110B4 948 D4B F77 8E5 A827 F97 11D3F A9B6 17BB 11D40 11D36 11D35 1A57 65D 1A66 A952",
   "733 11A53 1F138 10A02 110B7 B56 1F17C 116B0 116AF 8FD 119DA A9BF F7A E3A 11180 11CAB E39 FA4",
   "A3E F79 8FE 8DE D3F 1DED 11C92 65A 1F156 1752 1BF0 11EF3 1BEF 10A01 A9B9 114B3 16FF0 1DEE",
   "D40 F74 A881 94B 11A0A 2DE0 C40 11EF5 A9BC 24E5 1F15E 16F65 1E009 16F66 24DB 1072 C4A 16F4F",
   "24D4 11C99 1122C 114B0 1F152 1DE8 F92 AA31 9BF AA4C 11A07 24C2 108B FAF 111B3 1103F 1B43 6E8",
   "10A05 11342 11363 1F147 16F85 CC0 1084 735 11D33 1A19 11100 1A59 17B9 8DD 1A1A 16F72 11D3D",
   "1103C AAB4 115B0 11D95 114BE 81B 8F8 1143E 1885 11039 16F82 17BE 116AB 11130 1F15C 1F17E",
   "1A63 11F40 11A58 93A 73F C01 10A0F C3E 2DF4 2DF3 11CA7 24C4 F72 A8C0 11A09 C48 24C3 AC1",
   "1F162 1F154 11EF6 A9BB 1F17A FBB 6E3 963 1F145 AABE 11045 1F160 16F53 11727 FA6 11728 1A18",
   "A679 16F81 1BEE A69E 1753 11C36 8F6 D3E 8DF F9D 1DEC F78 11A92 2DEC E38 1103B 16F5E 111BF",
   "11D34 24CF 8FC 11A51 823 11A52 A70 A80B 11838 16F7E 110B5-110B6 CC2 119D2 11933 11D41 1073",
   "1F130 17C5 5B2 11300 AA32 DD2 F90 10A06 1E002 BC2 11720 DDC 1074 CE3 C03 1A5C 16F7D 73D 738",
   "8E8 1B3E 1A61 11723 114B1-114B2 119D5 112E2 1F168 119DB 116B1 AC3 1F172 A9BD 1712 345 A9BE",
   "16F64 11A8A 11CAA 11CA9 2DF1 81E 1E01B 11934 F7F FB2 11C35 8D8 111BC 16F61 9C2 16F76 A8B4",
   "903 109D 16FF1 2DEF A67A E35 1F146 B03 116AE 11725 2DE1 955 16F67 F96 11A91 1DF3 24E8 FA9",
   "24DE 16F83-16F84 24D1 FB4 1103E 1103D 1F13F 1063 1E001 110B3 7AE 5C1 957 946 CC6 825 A51 A48",
   "11CB0 A47 17C3 1F136 11040 16F6E 5C7 2DE7 11341 8FA AC4 16F59 6D8 16F86 115B9 C04 114BA 6D7",
   "11C38 AC9 1133E 16F71 1082 1E028 615 FA3 11102 AAEF A94B 1F13C D00 1182F 11001-11002 DD8",
   "2DF9 11833 1E00A 114BD F94 115B2 1BC9E 11A57 11CAC 1DEA 17BA 1F186 115BD 24D2 11F37 C4C",
   "1112B 11073 24BF ABE8 114B4 C42 F76 11127 94F 24B6 1F149 1E01D 11A37 11640 AE2 65C 1A67",
   "1122E 826 EB7 5B4 1064 CBF 111B9 1033 111BA 10D26 1C31 7AD A94E 1B00 24DA 16F5C 1067 1B80",
   "16F5B 5BB 829 24E4 102C 11A38 1C2A 2DE9-2DEA 1A64 1E026 11D31 1E005 1E947 94A 1171E 24B8 FA5",
   "1171D A951 114B7 1F13B A9B5 110B8 11836 D57 24D5 11128 11835 1A6A 1038 1E010 ABE7 1A69 11074",
   "110C2 11CAF 11A54 11F38 11D91 1F180 2DF6 1A58 A948 1B42 1068 734 AAEC AA2A 1E017 1056 82B",
   "1BA9 11F3E 1ABF 1932 1085 1112D 11830 16F8F 82C 1112E 1172A B41 11D8E 192A 8DC 1929 FAE 17C6",
   "651 B42 108A 1920 9BE 1BA5 A9E5 7AB 111B7 11A03 FB1E AC7 CC1 115BA AA2D A982 A981 5C4 D4C",
   "11043"]

def otherLowercase : CodePoints := .ofLines
  ["1E051 107A3 1D39-1D3A 2E0 24D3 1D35 1DA8 1DA7 10780 2093 1D4B 2B4 1DA5 1D66 24E1 24D8",
   "10787-10788 24D7 1E04D 1D53 24E2 107A6 107A5 1D4C 1E052 1D69 1DA2 1D78 1D2D 1DB8 1E041 1E037",
   "209A 1D48 2090 10783 1D2E 10785 2E3 2B7 1DA1 1E064 1DBD 1D47 2099 1E049 1D57 107B4 1D58",
   "1E03E 2172 2C7C 1E060 1E034 2171 107A8 1078D A7F8 2B1 1D63 1E055 1E04F 1D9F 1079D 2097 1D45",
   "1DBF 1E031 107AB 217E 1078A 1E06A 1079A AB5C 1E05A 107B3 1E033 1E03D 1DB4 107AC 10FC 1D65",
   "1E068 AA 10799 1D5D 1E06C 1E03F 1E035 10796 107B6 2092 1D4A 209C 1E048 1DB6 2177 1DA4 1079C",
   "1079B 2170 1E03B 1E045 1D68 1D2C 1DB9 1E057 1E047 10795 1E062 1E05E 1078E 1D56 37A 2098 1D2F",
   "1D46 217D 1D30 2B6 1DAD 2B5 1DA0 1D3F 1E059 1DB3 1D4D 24DD 1079E 24E7 1D4E 1E043 1E039 AB5F",
   "10789 1D9B 217F 1DBE 107A7 24D6 107A1 24E0 107A4 1E04B 1DB5 1D38 1D64 A770 1DA6 1E053 1078F",
   "24E4 1D5E 24DA 1E04C 107A0 24D5 1D37 1E06D 1DBA 2091 107B9-107BA 1D49 209B A7F2 1DAA 1DA3",
   "2178 1E05D 1D60 1D3C 1D55 1D52 1E044 1E03A 2B2 10792 10791 1E067 1E046 1D9C 2E1 1D67 107AE",
   "1E036 1E040 1D42 2094 1079F 107B7 1D34 24D2 1E063 10798 345 1DAE 1D51 1E061 2174 2C0 1D40",
   "24D1 1D33 24DE 1D5A 10794 1E058 24E8 AB69 1E054 1DB2 1DB1 AB5E A7F4 1D4F 10797 207F 217B",
   "1D31 1E06B 217C A69D 1E069 10784 2B0 217A 1D5F 107AA 24D4 1D36 24DB 1078B 24E5 AB5D 107B2",
   "1DB0 1E050 1D3D 2179 1DAB 1D54 2176 1DB7 24E3 2071 107B5 24D9 2C7D 107A9 1D3B BA 1E056 1078C",
   "2C1 1D5C 2B3 1E05F A69C 107A2 2E4 1DA9 2B8 2175 1E042 1E05C 1E038 1D6A 107AD 1DAF 1D50 1D41",
   "A7F3 1D9E 1D9D 24DF 24E9 1D32 2095 1D43 24D0 1D44 2096 107B8 1D5B 1E065 A7F9 2E2 1E03C 1E032",
   "2173 1E05B 10793 1E04E 107B0 107AF 24E6 24DC 1E030 1D61 10790 1D62 1E04A 1D3E 1E066 1DBC",
   "1DBB 1DAC 1D59"]

def otherUppercase : CodePoints := .ofLines
  ["1F144 1F163 1F150 24C7 1F131 1F161 216E 24BC 1F17F 1F185 24C5 1F164 1F179 1F132 2161 1F15B",
   "24CE 24CD 1F140 216A 24C0 1F135 24CB 1F171 1F167 1F182 2162 1F17D 2165 1F13A 1F15F 24C8",
   "1F153 1F181 1F183 24C6 1F155 1F17B 24BD 1F15D 216F 1F142 1F173 1F169 216C 1F189 1F13E 2160",
   "24BB 1F137 1F139 216B 1F159 24CC 24C1 1F177 1F148 1F187 24CA 1F151 1F175 2169 1F15A 2164",
   "1F178 1F133 24BE 1F165 1F157 24BA 24B9 1F13D 1F143 1F184 1F188 1F138 24B7 1F134 2168 2167",
   "1F158 1F166 24C9 1F170 1F176 1F174 1F141 2163 24C2 1F147 1F15E 1F152 1F17C 1F156 1F130 24CF",
   "1F17A 1F160 1F145 216D 1F15C 1F17E 24C4 1F154 24C3 1F162 2166 1F136 1F13F 1F146 1F172 1F168",
   "1F186 24BF 1F149 24B6 1F13C 1F180 24B8 1F13B"]

/-- The names of each property that is listed in full, and its code points. -/
def binaryProperties : List (List String × CodePoints) := [
  (["asciihexdigit", "ahex"], .ofLines
    ["30-39 41-46 61-66"]),
  (["bidicontrol", "bidic"], .ofLines
    ["61C 200E-200F 202A-202E 2066-2069"]),
  (["caseignorable", "ci"], .ofLines
    ["27 2E 3A 5E 60 A8 AD AF B4 B7-B8 2B0-36F 374-375 37A 384-385 387 483-489 559 55F 591-5BD 5BF",
     "5C1-5C2 5C4-5C5 5C7 5F4 600-605 610-61A 61C 640 64B-65F 670 6D6-6DD 6DF-6E8 6EA-6ED 70F 711",
     "730-74A 7A6-7B0 7EB-7F5 7FA 7FD 816-82D 859-85B 888 890-891 898-89F 8C9-902 93A 93C 941-948",
     "94D 951-957 962-963 971 981 9BC 9C1-9C4 9CD 9E2-9E3 9FE A01-A02 A3C A41-A42 A47-A48 A4B-A4D",
     "A51 A70-A71 A75 A81-A82 ABC AC1-AC5 AC7-AC8 ACD AE2-AE3 AFA-AFF B01 B3C B3F B41-B44 B4D",
     "B55-B56 B62-B63 B82 BC0 BCD C00 C04 C3C C3E-C40 C46-C48 C4A-C4D C55-C56 C62-C63 C81 CBC CBF",
     "CC6 CCC-CCD CE2-CE3 D00-D01 D3B-D3C D41-D44 D4D D62-D63 D81 DCA DD2-DD4 DD6 E31 E34-E3A",
     "E46-E4E EB1 EB4-EBC EC6 EC8-ECE F18-F19 F35 F37 F39 F71-F7E F80-F84 F86-F87 F8D-F97 F99-FBC",
     "FC6 102D-1030 1032-1037 1039-103A 103D-103E 1058-1059 105E-1060 1071-1074 1082 1085-1086",
     "108D 109D 10FC 135D-135F 1712-1714 1732-1733 1752-1753 1772-1773 17B4-17B5 17B7-17BD 17C6",
     "17C9-17D3 17D7 17DD 180B-180F 1843 1885-1886 18A9 1920-1922 1927-1928 1932 1939-193B",
     "1A17-1A18 1A1B 1A56 1A58-1A5E 1A60 1A62 1A65-1A6C 1A73-1A7C 1A7F 1AA7 1AB0-1ACE 1B00-1B03",
     "1B34 1B36-1B3A 1B3C 1B42 1B6B-1B73 1B80-1B81 1BA2-1BA5 1BA8-1BA9 1BAB-1BAD 1BE6 1BE8-1BE9",
     "1BED 1BEF-1BF1 1C2C-1C33 1C36-1C37 1C78-1C7D 1CD0-1CD2 1CD4-1CE0 1CE2-1CE8 1CED 1CF4",
     "1CF8-1CF9 1D2C-1D6A 1D78 1D9B-1DFF 1FBD 1FBF-1FC1 1FCD-1FCF 1FDD-1FDF 1FED-1FEF 1FFD-1FFE",
     "200B-200F 2018-2019 2024 2027 202A-202E 2060-2064 2066-206F 2071 207F 2090-209C 20D0-20F0",
     "2C7C-2C7D 2CEF-2CF1 2D6F 2D7F 2DE0-2DFF 2E2F 3005 302A-302D 3031-3035 303B 3099-309E",
     "30FC-30FE A015 A4F8-A4FD A60C A66F-A672 A674-A67D A67F A69C-A69F A6F0-A6F1 A700-A721 A770",
     "A788-A78A A7F2-A7F4 A7F8-A7F9 A802 A806 A80B A825-A826 A82C A8C4-A8C5 A8E0-A8F1 A8FF",
     "A926-A92D A947-A951 A980-A982 A9B3 A9B6-A9B9 A9BC-A9BD A9CF A9E5-A9E6 AA29-AA2E AA31-AA32",
     "AA35-AA36 AA43 AA4C AA70 AA7C AAB0 AAB2-AAB4 AAB7-AAB8 AABE-AABF AAC1 AADD AAEC-AAED",
     "AAF3-AAF4 AAF6 AB5B-AB5F AB69-AB6B ABE5 ABE8 ABED FB1E FBB2-FBC2 FE00-FE0F FE13 FE20-FE2F",
     "FE52 FE55 FEFF FF07 FF0E FF1A FF3E FF40 FF70 FF9E-FF9F FFE3 FFF9-FFFB 101FD 102E0",
     "10376-1037A 10780-10785 10787-107B0 107B2-107BA 10A01-10A03 10A05-10A06 10A0C-10A0F",
     "10A38-10A3A 10A3F 10AE5-10AE6 10D24-10D27 10EAB-10EAC 10EFD-10EFF 10F46-10F50 10F82-10F85",
     "11001 11038-11046 11070 11073-11074 1107F-11081 110B3-110B6 110B9-110BA 110BD 110C2 110CD",
     "11100-11102 11127-1112B 1112D-11134 11173 11180-11181 111B6-111BE 111C9-111CC 111CF",
     "1122F-11231 11234 11236-11237 1123E 11241 112DF 112E3-112EA 11300-11301 1133B-1133C 11340",
     "11366-1136C 11370-11374 11438-1143F 11442-11444 11446 1145E 114B3-114B8 114BA 114BF-114C0",
     "114C2-114C3 115B2-115B5 115BC-115BD 115BF-115C0 115DC-115DD 11633-1163A 1163D 1163F-11640",
     "116AB 116AD 116B0-116B5 116B7 1171D-1171F 11722-11725 11727-1172B 1182F-11837 11839-1183A",
     "1193B-1193C 1193E 11943 119D4-119D7 119DA-119DB 119E0 11A01-11A0A 11A33-11A38 11A3B-11A3E",
     "11A47 11A51-11A56 11A59-11A5B 11A8A-11A96 11A98-11A99 11C30-11C36 11C38-11C3D 11C3F",
     "11C92-11CA7 11CAA-11CB0 11CB2-11CB3 11CB5-11CB6 11D31-11D36 11D3A 11D3C-11D3D 11D3F-11D45",
     "11D47 11D90-11D91 11D95 11D97 11EF3-11EF4 11F00-11F01 11F36-11F3A 11F40 11F42 13430-13440",
     "13447-13455 16AF0-16AF4 16B30-16B36 16B40-16B43 16F4F 16F8F-16F9F 16FE0-16FE1 16FE3-16FE4",
     "1AFF0-1AFF3 1AFF5-1AFFB 1AFFD-1AFFE 1BC9D-1BC9E 1BCA0-1BCA3 1CF00-1CF2D 1CF30-1CF46",
     "1D167-1D169 1D173-1D182 1D185-1D18B 1D1AA-1D1AD 1D242-1D244 1DA00-1DA36 1DA3B-1DA6C 1DA75",
     "1DA84 1DA9B-1DA9F 1DAA1-1DAAF 1E000-1E006 1E008-1E018 1E01B-1E021 1E023-1E024 1E026-1E02A",
     "1E030-1E06D 1E08F 1E130-1E13D 1E2AE 1E2EC-1E2EF 1E4EB-1E4EF 1E8D0-1E8D6 1E944-1E94B",
     "1F3FB-1F3FF E0001 E0020-E007F E0100-E01EF"]),
  (["cased"], .ofLines
    ["41-5A 61-7A AA B5 BA C0-D6 D8-F6 F8-1BA 1BC-1BF 1C4-293 295-2B8 2C0-2C1 2E0-2E4 345 370-373",
     "376-377 37A-37D 37F 386 388-38A 38C 38E-3A1 3A3-3F5 3F7-481 48A-52F 531-556 560-588",
     "10A0-10C5 10C7 10CD 10D0-10FA 10FC-10FF 13A0-13F5 13F8-13FD 1C80-1C88 1C90-1CBA 1CBD-1CBF",
     "1D00-1DBF 1E00-1F15 1F18-1F1D 1F20-1F45 1F48-1F4D 1F50-1F57 1F59 1F5B 1F5D 1F5F-1F7D",
     "1F80-1FB4 1FB6-1FBC 1FBE 1FC2-1FC4 1FC6-1FCC 1FD0-1FD3 1FD6-1FDB 1FE0-1FEC 1FF2-1FF4",
     "1FF6-1FFC 2071 207F 2090-209C 2102 2107 210A-2113 2115 2119-211D 2124 2126 2128 212A-212D",
     "212F-2134 2139 213C-213F 2145-2149 214E 2160-217F 2183-2184 24B6-24E9 2C00-2CE4 2CEB-2CEE",
     "2CF2-2CF3 2D00-2D25 2D27 2D2D A640-A66D A680-A69D A722-A787 A78B-A78E A790-A7CA A7D0-A7D1",
     "A7D3 A7D5-A7D9 A7F2-A7F6 A7F8-A7FA AB30-AB5A AB5C-AB69 AB70-ABBF FB00-FB06 FB13-FB17",
     "FF21-FF3A FF41-FF5A 10400-1044F 104B0-104D3 104D8-104FB 10570-1057A 1057C-1058A 1058C-10592",
     "10594-10595 10597-105A1 105A3-105B1 105B3-105B9 105BB-105BC 10780 10783-10785 10787-107B0",
     "107B2-107BA 10C80-10CB2 10CC0-10CF2 118A0-118DF 16E40-16E7F 1D400-1D454 1D456-1D49C",
     "1D49E-1D49F 1D4A2 1D4A5-1D4A6 1D4A9-1D4AC 1D4AE-1D4B9 1D4BB 1D4BD-1D4C3 1D4C5-1D505",
     "1D507-1D50A 1D50D-1D514 1D516-1D51C 1D51E-1D539 1D53B-1D53E 1D540-1D544 1D546 1D54A-1D550",
     "1D552-1D6A5 1D6A8-1D6C0 1D6C2-1D6DA 1D6DC-1D6FA 1D6FC-1D714 1D716-1D734 1D736-1D74E",
     "1D750-1D76E 1D770-1D788 1D78A-1D7A8 1D7AA-1D7C2 1D7C4-1D7CB 1DF00-1DF09 1DF0B-1DF1E",
     "1DF25-1DF2A 1E030-1E06D 1E900-1E943 1F130-1F149 1F150-1F169 1F170-1F189"]),
  (["dash"], .ofLines
    ["2D 58A 5BE 1400 1806 2010-2015 2053 207B 208B 2212 2E17 2E1A 2E3A-2E3B 2E40 2E5D 301C 3030",
     "30A0 FE31-FE32 FE58 FE63 FF0D 10EAD"]),
  (["defaultignorablecodepoint", "di"], .ofLines
    ["AD 34F 61C 115F-1160 17B4-17B5 180B-180F 200B-200F 202A-202E 2060-206F 3164 FE00-FE0F FEFF",
     "FFA0 FFF0-FFF8 1BCA0-1BCA3 1D173-1D17A E0000-E0FFF"]),
  (["deprecated", "dep"], .ofLines
    ["149 673 F77 F79 17A3-17A4 206A-206F 2329-232A E0001"]),
  (["diacritic", "dia"], .ofLines
    ["5E 60 A8 AF B4 B7-B8 2B0-34E 350-357 35D-362 374-375 37A 384-385 483-487 559 591-5A1 5A3-5BD",
     "5BF 5C1-5C2 5C4 64B-652 657-658 6DF-6E0 6E5-6E6 6EA-6EC 730-74A 7A6-7B0 7EB-7F5 818-819",
     "898-89F 8C9-8D2 8E3-8FE 93C 94D 951-954 971 9BC 9CD A3C A4D ABC ACD AFD-AFF B3C B4D B55 BCD",
     "C3C C4D CBC CCD D3B-D3C D4D DCA E47-E4C E4E EBA EC8-ECC F18-F19 F35 F37 F39 F3E-F3F F82-F84",
     "F86-F87 FC6 1037 1039-103A 1063-1064 1069-106D 1087-108D 108F 109A-109B 135D-135F 1714-1715",
     "17C9-17D3 17DD 1939-193B 1A75-1A7C 1A7F 1AB0-1ABE 1AC1-1ACB 1B34 1B44 1B6B-1B73 1BAA-1BAB",
     "1C36-1C37 1C78-1C7D 1CD0-1CE8 1CED 1CF4 1CF7-1CF9 1D2C-1D6A 1DC4-1DCF 1DF5-1DFF 1FBD",
     "1FBF-1FC1 1FCD-1FCF 1FDD-1FDF 1FED-1FEF 1FFD-1FFE 2CEF-2CF1 2E2F 302A-302F 3099-309C 30FC",
     "A66F A67C-A67D A67F A69C-A69D A6F0-A6F1 A700-A721 A788-A78A A7F8-A7F9 A8C4 A8E0-A8F1",
     "A92B-A92E A953 A9B3 A9C0 A9E5 AA7B-AA7D AABF-AAC2 AAF6 AB5B-AB5F AB69-AB6B ABEC-ABED FB1E",
     "FE20-FE2F FF3E FF40 FF70 FF9E-FF9F FFE3 102E0 10780-10785 10787-107B0 107B2-107BA",
     "10AE5-10AE6 10D22-10D27 10EFD-10EFF 10F46-10F50 10F82-10F85 11046 11070 110B9-110BA",
     "11133-11134 11173 111C0 111CA-111CC 11235-11236 112E9-112EA 1133C 1134D 11366-1136C",
     "11370-11374 11442 11446 114C2-114C3 115BF-115C0 1163F 116B6-116B7 1172B 11839-1183A",
     "1193D-1193E 11943 119E0 11A34 11A47 11A99 11C3F 11D42 11D44-11D45 11D97 13447-13455",
     "16AF0-16AF4 16B30-16B36 16F8F-16F9F 16FF0-16FF1 1AFF0-1AFF3 1AFF5-1AFFB 1AFFD-1AFFE",
     "1CF00-1CF2D 1CF30-1CF46 1D167-1D169 1D16D-1D172 1D17B-1D182 1D185-1D18B 1D1AA-1D1AD",
     "1E030-1E06D 1E130-1E136 1E2AE 1E2EC-1E2EF 1E8D0-1E8D6 1E944-1E946 1E948-1E94A"]),
  (["emoji"], .ofLines
    ["23 2A 30-39 A9 AE 203C 2049 2122 2139 2194-2199 21A9-21AA 231A-231B 2328 23CF 23E9-23F3",
     "23F8-23FA 24C2 25AA-25AB 25B6 25C0 25FB-25FE 2600-2604 260E 2611 2614-2615 2618 261D 2620",
     "2622-2623 2626 262A 262E-262F 2638-263A 2640 2642 2648-2653 265F-2660 2663 2665-2666 2668",
     "267B 267E-267F 2692-2697 2699 269B-269C 26A0-26A1 26A7 26AA-26AB 26B0-26B1 26BD-26BE",
     "26C4-26C5 26C8 26CE-26CF 26D1 26D3-26D4 26E9-26EA 26F0-26F5 26F7-26FA 26FD 2702 2705",
     "2708-270D 270F 2712 2714 2716 271D 2721 2728 2733-2734 2744 2747 274C 274E 2753-2755 2757",
     "2763-2764 2795-2797 27A1 27B0 27BF 2934-2935 2B05-2B07 2B1B-2B1C 2B50 2B55 3030 303D 3297",
     "3299 1F004 1F0CF 1F170-1F171 1F17E-1F17F 1F18E 1F191-1F19A 1F1E6-1F1FF 1F201-1F202 1F21A",
     "1F22F 1F232-1F23A 1F250-1F251 1F300-1F321 1F324-1F393 1F396-1F397 1F399-1F39B 1F39E-1F3F0",
     "1F3F3-1F3F5 1F3F7-1F4FD 1F4FF-1F53D 1F549-1F54E 1F550-1F567 1F56F-1F570 1F573-1F57A 1F587",
     "1F58A-1F58D 1F590 1F595-1F596 1F5A4-1F5A5 1F5A8 1F5B1-1F5B2 1F5BC 1F5C2-1F5C4 1F5D1-1F5D3",
     "1F5DC-1F5DE 1F5E1 1F5E3 1F5E8 1F5EF 1F5F3 1F5FA-1F64F 1F680-1F6C5 1F6CB-1F6D2 1F6D5-1F6D7",
     "1F6DC-1F6E5 1F6E9 1F6EB-1F6EC 1F6F0 1F6F3-1F6FC 1F7E0-1F7EB 1F7F0 1F90C-1F93A 1F93C-1F945",
     "1F947-1F9FF 1FA70-1FA7C 1FA80-1FA88 1FA90-1FABD 1FABF-1FAC5 1FACE-1FADB 1FAE0-1FAE8",
     "1FAF0-1FAF8"]),
  (["emojicomponent", "ecomp"], .ofLines
    ["23 2A 30-39 200D 20E3 FE0F 1F1E6-1F1FF 1F3FB-1F3FF 1F9B0-1F9B3 E0020-E007F"]),
  (["emojimodifier", "emod"], .ofLines
    ["1F3FB-1F3FF"]),
  (["emojimodifierbase", "ebase"], .ofLines
    ["261D 26F9 270A-270D 1F385 1F3C2-1F3C4 1F3C7 1F3CA-1F3CC 1F442-1F443 1F446-1F450 1F466-1F478",
     "1F47C 1F481-1F483 1F485-1F487 1F48F 1F491 1F4AA 1F574-1F575 1F57A 1F590 1F595-1F596",
     "1F645-1F647 1F64B-1F64F 1F6A3 1F6B4-1F6B6 1F6C0 1F6CC 1F90C 1F90F 1F918-1F91F 1F926",
     "1F930-1F939 1F93C-1F93E 1F977 1F9B5-1F9B6 1F9B8-1F9B9 1F9BB 1F9CD-1F9CF 1F9D1-1F9DD",
     "1FAC3-1FAC5 1FAF0-1FAF8"]),
  (["emojipresentation", "epres"], .ofLines
    ["231A-231B 23E9-23EC 23F0 23F3 25FD-25FE 2614-2615 2648-2653 267F 2693 26A1 26AA-26AB",
     "26BD-26BE 26C4-26C5 26CE 26D4 26EA 26F2-26F3 26F5 26FA 26FD 2705 270A-270B 2728 274C 274E",
     "2753-2755 2757 2795-2797 27B0 27BF 2B1B-2B1C 2B50 2B55 1F004 1F0CF 1F18E 1F191-1F19A",
     "1F1E6-1F1FF 1F201 1F21A 1F22F 1F232-1F236 1F238-1F23A 1F250-1F251 1F300-1F320 1F32D-1F335",
     "1F337-1F37C 1F37E-1F393 1F3A0-1F3CA 1F3CF-1F3D3 1F3E0-1F3F0 1F3F4 1F3F8-1F43E 1F440",
     "1F442-1F4FC 1F4FF-1F53D 1F54B-1F54E 1F550-1F567 1F57A 1F595-1F596 1F5A4 1F5FB-1F64F",
     "1F680-1F6C5 1F6CC 1F6D0-1F6D2 1F6D5-1F6D7 1F6DC-1F6DF 1F6EB-1F6EC 1F6F4-1F6FC 1F7E0-1F7EB",
     "1F7F0 1F90C-1F93A 1F93C-1F945 1F947-1F9FF 1FA70-1FA7C 1FA80-1FA88 1FA90-1FABD 1FABF-1FAC5",
     "1FACE-1FADB 1FAE0-1FAE8 1FAF0-1FAF8"]),
  (["extendedpictographic", "extpict"], .ofLines
    ["A9 AE 203C 2049 2122 2139 2194-2199 21A9-21AA 231A-231B 2328 2388 23CF 23E9-23F3 23F8-23FA",
     "24C2 25AA-25AB 25B6 25C0 25FB-25FE 2600-2605 2607-2612 2614-2685 2690-2705 2708-2712 2714",
     "2716 271D 2721 2728 2733-2734 2744 2747 274C 274E 2753-2755 2757 2763-2767 2795-2797 27A1",
     "27B0 27BF 2934-2935 2B05-2B07 2B1B-2B1C 2B50 2B55 3030 303D 3297 3299 1F000-1F0FF",
     "1F10D-1F10F 1F12F 1F16C-1F171 1F17E-1F17F 1F18E 1F191-1F19A 1F1AD-1F1E5 1F201-1F20F 1F21A",
     "1F22F 1F232-1F23A 1F23C-1F23F 1F249-1F3FA 1F400-1F53D 1F546-1F64F 1F680-1F6FF 1F774-1F77F",
     "1F7D5-1F7FF 1F80C-1F80F 1F848-1F84F 1F85A-1F85F 1F888-1F88F 1F8AE-1F8FF 1F90C-1F93A",
     "1F93C-1F945 1F947-1FAFF 1FC00-1FFFD"]),
  (["extender", "ext"], .ofLines
    ["B7 2D0-2D1 640 7FA B55 E46 EC6 180A 1843 1AA7 1C36 1C7B 3005 3031-3035 309D-309E 30FC-30FE",
     "A015 A60C A9CF A9E6 AA70 AADD AAF3-AAF4 FF70 10781-10782 1135D 115C6-115C8 11A98 16B42-16B43",
     "16FE0-16FE1 16FE3 1E13C-1E13D 1E944-1E946"]),
  (["graphemeextend", "grext"], .ofLines
    ["300-36F 483-489 591-5BD 5BF 5C1-5C2 5C4-5C5 5C7 610-61A 64B-65F 670 6D6-6DC 6DF-6E4 6E7-6E8",
     "6EA-6ED 711 730-74A 7A6-7B0 7EB-7F3 7FD 816-819 81B-823 825-827 829-82D 859-85B 898-89F",
     "8CA-8E1 8E3-902 93A 93C 941-948 94D 951-957 962-963 981 9BC 9BE 9C1-9C4 9CD 9D7 9E2-9E3 9FE",
     "A01-A02 A3C A41-A42 A47-A48 A4B-A4D A51 A70-A71 A75 A81-A82 ABC AC1-AC5 AC7-AC8 ACD AE2-AE3",
     "AFA-AFF B01 B3C B3E-B3F B41-B44 B4D B55-B57 B62-B63 B82 BBE BC0 BCD BD7 C00 C04 C3C C3E-C40",
     "C46-C48 C4A-C4D C55-C56 C62-C63 C81 CBC CBF CC2 CC6 CCC-CCD CD5-CD6 CE2-CE3 D00-D01 D3B-D3C",
     "D3E D41-D44 D4D D57 D62-D63 D81 DCA DCF DD2-DD4 DD6 DDF E31 E34-E3A E47-E4E EB1 EB4-EBC",
     "EC8-ECE F18-F19 F35 F37 F39 F71-F7E F80-F84 F86-F87 F8D-F97 F99-FBC FC6 102D-1030 1032-1037",
     "1039-103A 103D-103E 1058-1059 105E-1060 1071-1074 1082 1085-1086 108D 109D 135D-135F",
     "1712-1714 1732-1733 1752-1753 1772-1773 17B4-17B5 17B7-17BD 17C6 17C9-17D3 17DD 180B-180D",
     "180F 1885-1886 18A9 1920-1922 1927-1928 1932 1939-193B 1A17-1A18 1A1B 1A56 1A58-1A5E 1A60",
     "1A62 1A65-1A6C 1A73-1A7C 1A7F 1AB0-1ACE 1B00-1B03 1B34-1B3A 1B3C 1B42 1B6B-1B73 1B80-1B81",
     "1BA2-1BA5 1BA8-1BA9 1BAB-1BAD 1BE6 1BE8-1BE9 1BED 1BEF-1BF1 1C2C-1C33 1C36-1C37 1CD0-1CD2",
     "1CD4-1CE0 1CE2-1CE8 1CED 1CF4 1CF8-1CF9 1DC0-1DFF 200C 20D0-20F0 2CEF-2CF1 2D7F 2DE0-2DFF",
     "302A-302F 3099-309A A66F-A672 A674-A67D A69E-A69F A6F0-A6F1 A802 A806 A80B A825-A826 A82C",
     "A8C4-A8C5 A8E0-A8F1 A8FF A926-A92D A947-A951 A980-A982 A9B3 A9B6-A9B9 A9BC-A9BD A9E5",
     "AA29-AA2E AA31-AA32 AA35-AA36 AA43 AA4C AA7C AAB0 AAB2-AAB4 AAB7-AAB8 AABE-AABF AAC1",
     "AAEC-AAED AAF6 ABE5 ABE8 ABED FB1E FE00-FE0F FE20-FE2F FF9E-FF9F 101FD 102E0 10376-1037A",
     "10A01-10A03 10A05-10A06 10A0C-10A0F 10A38-10A3A 10A3F 10AE5-10AE6 10D24-10D27 10EAB-10EAC",
     "10EFD-10EFF 10F46-10F50 10F82-10F85 11001 11038-11046 11070 11073-11074 1107F-11081",
     "110B3-110B6 110B9-110BA 110C2 11100-11102 11127-1112B 1112D-11134 11173 11180-11181",
     "111B6-111BE 111C9-111CC 111CF 1122F-11231 11234 11236-11237 1123E 11241 112DF 112E3-112EA",
     "11300-11301 1133B-1133C 1133E 11340 11357 11366-1136C 11370-11374 11438-1143F 11442-11444",
     "11446 1145E 114B0 114B3-114B8 114BA 114BD 114BF-114C0 114C2-114C3 115AF 115B2-115B5",
     "115BC-115BD 115BF-115C0 115DC-115DD 11633-1163A 1163D 1163F-11640 116AB 116AD 116B0-116B5",
     "116B7 1171D-1171F 11722-11725 11727-1172B 1182F-11837 11839-1183A 11930 1193B-1193C 1193E",
     "11943 119D4-119D7 119DA-119DB 119E0 11A01-11A0A 11A33-11A38 11A3B-11A3E 11A47 11A51-11A56",
     "11A59-11A5B 11A8A-11A96 11A98-11A99 11C30-11C36 11C38-11C3D 11C3F 11C92-11CA7 11CAA-11CB0",
     "11CB2-11CB3 11CB5-11CB6 11D31-11D36 11D3A 11D3C-11D3D 11D3F-11D45 11D47 11D90-11D91 11D95",
     "11D97 11EF3-11EF4 11F00-11F01 11F36-11F3A 11F40 11F42 13440 13447-13455 16AF0-16AF4",
     "16B30-16B36 16F4F 16F8F-16F92 16FE4 1BC9D-1BC9E 1CF00-1CF2D 1CF30-1CF46 1D165 1D167-1D169",
     "1D16E-1D172 1D17B-1D182 1D185-1D18B 1D1AA-1D1AD 1D242-1D244 1DA00-1DA36 1DA3B-1DA6C 1DA75",
     "1DA84 1DA9B-1DA9F 1DAA1-1DAAF 1E000-1E006 1E008-1E018 1E01B-1E021 1E023-1E024 1E026-1E02A",
     "1E08F 1E130-1E136 1E2AE 1E2EC-1E2EF 1E4EC-1E4EF 1E8D0-1E8D6 1E944-1E94A E0020-E007F",
     "E0100-E01EF"]),
  (["hexdigit", "hex"], .ofLines
    ["30-39 41-46 61-66 FF10-FF19 FF21-FF26 FF41-FF46"]),
  (["hyphen"], .ofLines
    ["2D AD 58A 1806 2010-2011 2E17 30FB FE63 FF0D FF65"]),
  (["ideographic", "ideo"], .ofLines
    ["3006-3007 3021-3029 3038-303A 3400-4DBF 4E00-9FFF F900-FA6D FA70-FAD9 16FE4 17000-187F7",
     "18800-18CD5 18D00-18D08 1B170-1B2FB 20000-2A6DF 2A700-2B739 2B740-2B81D 2B820-2CEA1",
     "2CEB0-2EBE0 2F800-2FA1D 30000-3134A 31350-323AF"]),
  (["joincontrol", "joinc"], .ofLines
    ["200C-200D"]),
  (["logicalorderexception", "loe"], .ofLines
    ["E40-E44 EC0-EC4 19B5-19B7 19BA AAB5-AAB6 AAB9 AABB-AABC"]),
  (["math"], .ofLines
    ["2B 3C-3E 5E 7C 7E AC B1 D7 F7 3D0-3D2 3D5 3F0-3F1 3F4-3F6 606-608 2016 2032-2034 2040 2044",
     "2052 2061-2064 207A-207E 208A-208E 20D0-20DC 20E1 20E5-20E6 20EB-20EF 2102 2107 210A-2113",
     "2115 2118-211D 2124 2128-2129 212C-212D 212F-2131 2133-2138 213C-2149 214B 2190-21A7",
     "21A9-21AE 21B0-21B1 21B6-21B7 21BC-21DB 21DD 21E4-21E5 21F4-22FF 2308-230B 2320-2321 237C",
     "239B-23B5 23B7 23D0 23DC-23E2 25A0-25A1 25AE-25B7 25BC-25C1 25C6-25C7 25CA-25CB 25CF-25D3",
     "25E2 25E4 25E7-25EC 25F8-25FF 2605-2606 2640 2642 2660-2663 266D-266F 27C0-27FF 2900-2AFF",
     "2B30-2B44 2B47-2B4C FB29 FE61-FE66 FE68 FF0B FF1C-FF1E FF3C FF3E FF5C FF5E FFE2 FFE9-FFEC",
     "1D400-1D454 1D456-1D49C 1D49E-1D49F 1D4A2 1D4A5-1D4A6 1D4A9-1D4AC 1D4AE-1D4B9 1D4BB",
     "1D4BD-1D4C3 1D4C5-1D505 1D507-1D50A 1D50D-1D514 1D516-1D51C 1D51E-1D539 1D53B-1D53E",
     "1D540-1D544 1D546 1D54A-1D550 1D552-1D6A5 1D6A8-1D7CB 1D7CE-1D7FF 1EE00-1EE03 1EE05-1EE1F",
     "1EE21-1EE22 1EE24 1EE27 1EE29-1EE32 1EE34-1EE37 1EE39 1EE3B 1EE42 1EE47 1EE49 1EE4B",
     "1EE4D-1EE4F 1EE51-1EE52 1EE54 1EE57 1EE59 1EE5B 1EE5D 1EE5F 1EE61-1EE62 1EE64 1EE67-1EE6A",
     "1EE6C-1EE72 1EE74-1EE77 1EE79-1EE7C 1EE7E 1EE80-1EE89 1EE8B-1EE9B 1EEA1-1EEA3 1EEA5-1EEA9",
     "1EEAB-1EEBB 1EEF0-1EEF1"]),
  (["noncharactercodepoint", "nchar"], .ofLines
    ["FDD0-FDEF FFFE-FFFF 1FFFE-1FFFF 2FFFE-2FFFF 3FFFE-3FFFF 4FFFE-4FFFF 5FFFE-5FFFF 6FFFE-6FFFF",
     "7FFFE-7FFFF 8FFFE-8FFFF 9FFFE-9FFFF AFFFE-AFFFF BFFFE-BFFFF CFFFE-CFFFF DFFFE-DFFFF",
     "EFFFE-EFFFF FFFFE-FFFFF 10FFFE-10FFFF"]),
  (["patternsyntax", "patsyn"], .ofLines
    ["21-2F 3A-40 5B-5E 60 7B-7E A1-A7 A9 AB-AC AE B0-B1 B6 BB BF D7 F7 2010-2027 2030-203E",
     "2041-2053 2055-205E 2190-245F 2500-2775 2794-2BFF 2E00-2E7F 3001-3003 3008-3020 3030",
     "FD3E-FD3F FE45-FE46"]),
  (["patternwhitespace", "patws"], .ofLines
    ["9-D 20 85 200E-200F 2028-2029"]),
  (["quotationmark", "qmark"], .ofLines
    ["22 27 AB BB 2018-201F 2039-203A 2E42 300C-300F 301D-301F FE41-FE44 FF02 FF07 FF62-FF63"]),
  (["radical"], .ofLines
    ["2E80-2E99 2E9B-2EF3 2F00-2FD5"]),
  (["regionalindicator", "ri"], .ofLines
    ["1F1E6-1F1FF"]),
  (["sentenceterminal", "sterm"], .ofLines
    ["21 2E 3F 589 61D-61F 6D4 700-702 7F9 837 839 83D-83E 964-965 104A-104B 1362 1367-1368 166E",
     "1735-1736 1803 1809 1944-1945 1AA8-1AAB 1B5A-1B5B 1B5E-1B5F 1B7D-1B7E 1C3B-1C3C 1C7E-1C7F",
     "203C-203D 2047-2049 2E2E 2E3C 2E53-2E54 3002 A4FF A60E-A60F A6F3 A6F7 A876-A877 A8CE-A8CF",
     "A92F A9C8-A9C9 AA5D-AA5F AAF0-AAF1 ABEB FE52 FE56-FE57 FF01 FF0E FF1F FF61 10A56-10A57",
     "10F55-10F59 10F86-10F89 11047-11048 110BE-110C1 11141-11143 111C5-111C6 111CD 111DE-111DF",
     "11238-11239 1123B-1123C 112A9 1144B-1144C 115C2-115C3 115C9-115D7 11641-11642 1173C-1173E",
     "11944 11946 11A42-11A43 11A9B-11A9C 11C41-11C42 11EF7-11EF8 11F43-11F44 16A6E-16A6F 16AF5",
     "16B37-16B38 16B44 16E98 1BC9F 1DA88"]),
  (["softdotted", "sd"], .ofLines
    ["69-6A 12F 249 268 29D 2B2 3F3 456 458 1D62 1D96 1DA4 1DA8 1E2D 1ECB 2071 2148-2149 2C7C",
     "1D422-1D423 1D456-1D457 1D48A-1D48B 1D4BE-1D4BF 1D4F2-1D4F3 1D526-1D527 1D55A-1D55B",
     "1D58E-1D58F 1D5C2-1D5C3 1D5F6-1D5F7 1D62A-1D62B 1D65E-1D65F 1D692-1D693 1DF1A 1E04C-1E04D",
     "1E068"]),
  (["terminalpunctuation", "term"], .ofLines
    ["21 2C 2E 3A-3B 3F 37E 387 589 5C3 60C 61B 61D-61F 6D4 700-70A 70C 7F8-7F9 830-83E 85E",
     "964-965 E5A-E5B F08 F0D-F12 104A-104B 1361-1368 166E 16EB-16ED 1735-1736 17D4-17D6 17DA",
     "1802-1805 1808-1809 1944-1945 1AA8-1AAB 1B5A-1B5B 1B5D-1B5F 1B7D-1B7E 1C3B-1C3F 1C7E-1C7F",
     "203C-203D 2047-2049 2E2E 2E3C 2E41 2E4C 2E4E-2E4F 2E53-2E54 3001-3002 A4FE-A4FF A60D-A60F",
     "A6F3-A6F7 A876-A877 A8CE-A8CF A92F A9C7-A9C9 AA5D-AA5F AADF AAF0-AAF1 ABEB FE50-FE52",
     "FE54-FE57 FF01 FF0C FF0E FF1A-FF1B FF1F FF61 FF64 1039F 103D0 10857 1091F 10A56-10A57",
     "10AF0-10AF5 10B3A-10B3F 10B99-10B9C 10F55-10F59 10F86-10F89 11047-1104D 110BE-110C1",
     "11141-11143 111C5-111C6 111CD 111DE-111DF 11238-1123C 112A9 1144B-1144D 1145A-1145B",
     "115C2-115C5 115C9-115D7 11641-11642 1173C-1173E 11944 11946 11A42-11A43 11A9B-11A9C",
     "11AA1-11AA2 11C41-11C43 11C71 11EF7-11EF8 11F43-11F44 12470-12474 16A6E-16A6F 16AF5",
     "16B37-16B39 16B44 16E97-16E98 1BC9F 1DA87-1DA8A"]),
  (["unifiedideograph", "uideo"], .ofLines
    ["3400-4DBF 4E00-9FFF FA0E-FA0F FA11 FA13-FA14 FA1F FA21 FA23-FA24 FA27-FA29 20000-2A6DF",
     "2A700-2B739 2B740-2B81D 2B820-2CEA1 2CEB0-2EBE0 30000-3134A 31350-323AF"]),
  (["variationselector", "vs"], .ofLines
    ["180B-180D 180F FE00-FE0F E0100-E01EF"]),
  (["whitespace", "wspace", "space"], .ofLines
    ["9-D 20 85 A0 1680 2000-200A 2028-2029 202F 205F 3000"])]

end DecoratorGraph.Pattern
