import SiteProbe.Unicode.CodeMap

/-!
# Composed characters

The pairs of characters that compose to one, by their second character (`pairs`), and the classes of marks, which say
which marks can change places (`classes`).
-/

namespace SiteProbe.Unicode.Composition

/-- Pairs that compose to one character, by their second character. -/
def pairs : List (Nat × List CodeMap.Run) := [
  (0x300, CodeMap.readRuns [
    "41>C0 45>C8 49>CC 4E>1F8 4F>D2 55>D9 57>1E80 59>1EF2 61>E0 65>E8 69>EC 6E>1F9 6F>F2 75>F9 77>1E81 79>1EF3",
    "A8>1FED C2>1EA6 CA>1EC0 D4>1ED2 DC>1DB E2>1EA7 EA>1EC1 F4>1ED3 FC>1DC 102-103>1EB0 112-113>1E14",
    "14C-14D>1E50 1A0-1A1>1EDC 1AF-1B0>1EEA 391>1FBA 395~397>1FC8 399>1FDA 39F>1FF8 3A5>1FEA 3A9>1FFA 3B1>1F70",
    "3B5~3B9>1F72 3BF>1F78 3C5>1F7A 3C9>1F7C 3CA>1FD2 3CB>1FE2 415>400 418>40D 435>450 438>45D 1F00-1F01>1F02",
    "1F08-1F09>1F0A 1F10-1F11>1F12 1F18-1F19>1F1A 1F20-1F21>1F22 1F28-1F29>1F2A 1F30-1F31>1F32 1F38-1F39>1F3A",
    "1F40-1F41>1F42 1F48-1F49>1F4A 1F50-1F51>1F52 1F59>1F5B 1F60-1F61>1F62 1F68-1F69>1F6A 1FBF>1FCD 1FFE>1FDD"]),
  (0x301, CodeMap.readRuns [
    "41>C1 43>106 45>C9 47>1F4 49>CD 4B>1E30 4C>139 4D>1E3E 4E>143 4F>D3 50>1E54 52>154 53>15A 55>DA 57>1E82",
    "59>DD 5A>179 61>E1 63>107 65>E9 67>1F5 69>ED 6B>1E31 6C>13A 6D>1E3F 6E>144 6F>F3 70>1E55 72>155 73>15B",
    "75>FA 77>1E83 79>FD 7A>17A A8>385 C2>1EA4 C5>1FA C6>1FC C7>1E08 CA>1EBE CF>1E2E D4>1ED0 D5>1E4C D8>1FE",
    "DC>1D7 E2>1EA5 E5>1FB E6>1FD E7>1E09 EA>1EBF EF>1E2F F4>1ED1 F5>1E4D F8>1FF FC>1D8 102-103>1EAE",
    "112-113>1E16 14C-14D>1E52 168-169>1E78 1A0-1A1>1EDA 1AF-1B0>1EE8 391>386 395>388 397>389 399>38A 39F>38C",
    "3A5>38E 3A9>38F 3B1>3AC 3B5>3AD 3B7>3AE 3B9>3AF 3BF>3CC 3C5>3CD 3C9>3CE 3CA>390 3CB>3B0 3D2>3D3 413>403",
    "41A>40C 433>453 43A>45C 1F00-1F01>1F04 1F08-1F09>1F0C 1F10-1F11>1F14 1F18-1F19>1F1C 1F20-1F21>1F24",
    "1F28-1F29>1F2C 1F30-1F31>1F34 1F38-1F39>1F3C 1F40-1F41>1F44 1F48-1F49>1F4C 1F50-1F51>1F54 1F59>1F5D",
    "1F60-1F61>1F64 1F68-1F69>1F6C 1FBF>1FCE 1FFE>1FDE"]),
  (0x302, CodeMap.readRuns [
    "41>C2 43>108 45>CA 47>11C 48>124 49>CE 4A>134 4F>D4 53>15C 55>DB 57~59>174 5A>1E90 61>E2 63>109 65>EA",
    "67>11D 68>125 69>EE 6A>135 6F>F4 73>15D 75>FB 77~79>175 7A>1E91 1EA0-1EA1>1EAC 1EB8-1EB9>1EC6",
    "1ECC-1ECD>1ED8"]),
  (0x303, CodeMap.readRuns [
    "41>C3 45>1EBC 49>128 4E>D1 4F>D5 55>168 56>1E7C 59>1EF8 61>E3 65>1EBD 69>129 6E>F1 6F>F5 75>169 76>1E7D",
    "79>1EF9 C2>1EAA CA>1EC4 D4>1ED6 E2>1EAB EA>1EC5 F4>1ED7 102-103>1EB4 1A0-1A1>1EE0 1AF-1B0>1EEE"]),
  (0x304, CodeMap.readRuns [
    "41>100 45>112 47>1E20 49>12A 4F>14C 55>16A 59>232 61>101 65>113 67>1E21 69>12B 6F>14D 75>16B 79>233",
    "C4>1DE C6>1E2 D5>22C D6>22A DC>1D5 E4>1DF E6>1E3 F5>22D F6>22B FC>1D6 1EA-1EB>1EC 226-227>1E0 22E-22F>230",
    "391>1FB9 399>1FD9 3A5>1FE9 3B1>1FB1 3B9>1FD1 3C5>1FE1 418>4E2 423>4EE 438>4E3 443>4EF 1E36-1E37>1E38",
    "1E5A-1E5B>1E5C"]),
  (0x306, CodeMap.readRuns [
    "41>102 45>114 47>11E 49>12C 4F>14E 55>16C 61>103 65>115 67>11F 69>12D 6F>14F 75>16D 228-229>1E1C 391>1FB8",
    "399>1FD8 3A5>1FE8 3B1>1FB0 3B9>1FD0 3C5>1FE0 410>4D0 415>4D6 416>4C1 418>419 423>40E 430>4D1 435>4D7",
    "436>4C2 438>439 443>45E 1EA0-1EA1>1EB6"]),
  (0x307, CodeMap.readRuns [
    "41>226 42>1E02 43>10A 44>1E0A 45>116 46>1E1E 47>120 48>1E22 49>130 4D>1E40 4E>1E44 4F>22E 50~52>1E56",
    "53>1E60 54>1E6A 57>1E86 58>1E8A 59>1E8E 5A>17B 61>227 62>1E03 63>10B 64>1E0B 65>117 66>1E1F 67>121",
    "68>1E23 6D>1E41 6E>1E45 6F>22F 70~72>1E57 73>1E61 74>1E6B 77>1E87 78>1E8B 79>1E8F 7A>17C 15A-15B>1E64",
    "160-161>1E66 17F>1E9B 1E62-1E63>1E68 105D2>105C9 105DA>105E4"]),
  (0x308, CodeMap.readRuns [
    "41>C4 45>CB 48>1E26 49>CF 4F>D6 55>DC 57>1E84 58>1E8C 59>178 61>E4 65>EB 68>1E27 69>EF 6F>F6 74>1E97",
    "75>FC 77>1E85 78>1E8D 79>FF D5>1E4E F5>1E4F 16A-16B>1E7A 399>3AA 3A5>3AB 3B9>3CA 3C5>3CB 3D2>3D4 406>407",
    "410>4D2 415>401 416>4DC 417>4DE 418>4E4 41E>4E6 423>4F0 427>4F4 42B>4F8 42D>4EC 430>4D3 435>451 436>4DD",
    "437>4DF 438>4E5 43E>4E7 443>4F1 447>4F5 44B>4F9 44D>4ED 456>457 4D8-4D9>4DA 4E8-4E9>4EA"]),
  (0x309, CodeMap.readRuns [
    "41>1EA2 45>1EBA 49>1EC8 4F>1ECE 55>1EE6 59>1EF6 61>1EA3 65>1EBB 69>1EC9 6F>1ECF 75>1EE7 79>1EF7 C2>1EA8",
    "CA>1EC2 D4>1ED4 E2>1EA9 EA>1EC3 F4>1ED5 102-103>1EB2 1A0-1A1>1EDE 1AF-1B0>1EEC"]),
  (0x30A, CodeMap.readRuns ["41>C5 55>16E 61>E5 75>16F 77>1E98 79>1E99"]),
  (0x30B, CodeMap.readRuns ["4F>150 55>170 6F>151 75>171 423>4F2 443>4F3"]),
  (0x30C, CodeMap.readRuns [
    "41>1CD 43>10C 44>10E 45>11A 47>1E6 48>21E 49>1CF 4B>1E8 4C>13D 4E>147 4F>1D1 52>158 53>160 54>164 55>1D3",
    "5A>17D 61>1CE 63>10D 64>10F 65>11B 67>1E7 68>21F 69>1D0 6A>1F0 6B>1E9 6C>13E 6E>148 6F>1D2 72>159 73>161",
    "74>165 75>1D4 7A>17E DC>1D9 FC>1DA 1B7>1EE 292>1EF"]),
  (0x30F, CodeMap.readRuns ["41>200 45>204 49>208 4F>20C 52>210 55>214 61>201 65>205 69>209 6F>20D 72>211",
    "75>215 474-475>476"]),
  (0x311, CodeMap.readRuns ["41>202 45>206 49>20A 4F>20E 52>212 55>216 61>203 65>207 69>20B 6F>20F 72>213 75>217"]),
  (0x313, CodeMap.readRuns [
    "391>1F08 395>1F18 397>1F28 399>1F38 39F>1F48 3A9>1F68 3B1>1F00 3B5>1F10 3B7>1F20 3B9>1F30 3BF>1F40",
    "3C1>1FE4 3C5>1F50 3C9>1F60"]),
  (0x314, CodeMap.readRuns [
    "391>1F09 395>1F19 397>1F29 399>1F39 39F>1F49 3A1>1FEC 3A5>1F59 3A9>1F69 3B1>1F01 3B5>1F11 3B7>1F21",
    "3B9>1F31 3BF>1F41 3C1>1FE5 3C5>1F51 3C9>1F61"]),
  (0x31B, CodeMap.readRuns ["4F>1A0 55>1AF 6F>1A1 75>1B0"]),
  (0x323, CodeMap.readRuns [
    "41>1EA0 42>1E04 44>1E0C 45>1EB8 48>1E24 49>1ECA 4B>1E32 4C>1E36 4D>1E42 4E>1E46 4F>1ECC 52>1E5A 53>1E62",
    "54>1E6C 55>1EE4 56>1E7E 57>1E88 59>1EF4 5A>1E92 61>1EA1 62>1E05 64>1E0D 65>1EB9 68>1E25 69>1ECB 6B>1E33",
    "6C>1E37 6D>1E43 6E>1E47 6F>1ECD 72>1E5B 73>1E63 74>1E6D 75>1EE5 76>1E7F 77>1E89 79>1EF5 7A>1E93",
    "1A0-1A1>1EE2 1AF-1B0>1EF0"]),
  (0x324, CodeMap.readRuns ["55>1E72 75>1E73"]),
  (0x325, CodeMap.readRuns ["41>1E00 61>1E01"]),
  (0x326, CodeMap.readRuns ["53>218 54>21A 73>219 74>21B"]),
  (0x327, CodeMap.readRuns [
    "43>C7 44>1E10 45>228 47>122 48>1E28 4B>136 4C>13B 4E>145 52>156 53>15E 54>162 63>E7 64>1E11 65>229 67>123",
    "68>1E29 6B>137 6C>13C 6E>146 72>157 73>15F 74>163"]),
  (0x328, CodeMap.readRuns ["41>104 45>118 49>12E 4F>1EA 55>172 61>105 65>119 69>12F 6F>1EB 75>173"]),
  (0x32D, CodeMap.readRuns ["44>1E12 45>1E18 4C>1E3C 4E>1E4A 54>1E70 55>1E76 64>1E13 65>1E19 6C>1E3D",
    "6E>1E4B 74>1E71 75>1E77"]),
  (0x32E, CodeMap.readRuns ["48>1E2A 68>1E2B"]),
  (0x330, CodeMap.readRuns ["45>1E1A 49>1E2C 55>1E74 65>1E1B 69>1E2D 75>1E75"]),
  (0x331, CodeMap.readRuns [
    "42>1E06 44>1E0E 4B>1E34 4C>1E3A 4E>1E48 52>1E5E 54>1E6E 5A>1E94 62>1E07 64>1E0F 68>1E96 6B>1E35 6C>1E3B",
    "6E>1E49 72>1E5F 74>1E6F 7A>1E95"]),
  (0x338, CodeMap.readRuns [
    "3C>226E 3D>2260 3E>226F 2190>219A 2192>219B 2194>21AE 21D0~21D2>21CD 21D4>21CE 2203>2204 2208>2209",
    "220B>220C 2223~2225>2224 223C>2241 2243>2244 2245>2247 2248>2249 224D>226D 2261>2262 2264-2265>2270",
    "2272-2273>2274 2276-2277>2278 227A-227B>2280 227C-227D>22E0 2282-2283>2284 2286-2287>2288 2291-2292>22E2",
    "22A2>22AC 22A8-22A9>22AD 22AB>22AF 22B2-22B5>22EA"]),
  (0x342, CodeMap.readRuns [
    "A8>1FC1 3B1>1FB6 3B7>1FC6 3B9>1FD6 3C5>1FE6 3C9>1FF6 3CA>1FD7 3CB>1FE7 1F00-1F01>1F06 1F08-1F09>1F0E",
    "1F20-1F21>1F26 1F28-1F29>1F2E 1F30-1F31>1F36 1F38-1F39>1F3E 1F50-1F51>1F56 1F59>1F5F 1F60-1F61>1F66",
    "1F68-1F69>1F6E 1FBF>1FCF 1FFE>1FDF"]),
  (0x345, CodeMap.readRuns [
    "391>1FBC 397>1FCC 3A9>1FFC 3AC>1FB4 3AE>1FC4 3B1>1FB3 3B7>1FC3 3C9>1FF3 3CE>1FF4 1F00-1F0F>1F80",
    "1F20-1F2F>1F90 1F60-1F6F>1FA0 1F70>1FB2 1F74>1FC2 1F7C>1FF2 1FB6>1FB7 1FC6>1FC7 1FF6>1FF7"]),
  (0x653, CodeMap.readRuns ["627>622"]),
  (0x654, CodeMap.readRuns ["627>623 648~64A>624 6C1>6C2 6D2>6D3 6D5>6C0"]),
  (0x655, CodeMap.readRuns ["627>625"]),
  (0x93C, CodeMap.readRuns ["928>929 930>931 933>934"]),
  (0x9BE, CodeMap.readRuns ["9C7>9CB"]),
  (0x9D7, CodeMap.readRuns ["9C7>9CC"]),
  (0xB3E, CodeMap.readRuns ["B47>B4B"]),
  (0xB56, CodeMap.readRuns ["B47>B48"]),
  (0xB57, CodeMap.readRuns ["B47>B4C"]),
  (0xBBE, CodeMap.readRuns ["BC6-BC7>BCA"]),
  (0xBD7, CodeMap.readRuns ["B92>B94 BC6>BCC"]),
  (0xC56, CodeMap.readRuns ["C46>C48"]),
  (0xCC2, CodeMap.readRuns ["CC6>CCA"]),
  (0xCD5, CodeMap.readRuns ["CBF>CC0 CC6>CC7 CCA>CCB"]),
  (0xCD6, CodeMap.readRuns ["CC6>CC8"]),
  (0xD3E, CodeMap.readRuns ["D46-D47>D4A"]),
  (0xD57, CodeMap.readRuns ["D46>D4C"]),
  (0xDCA, CodeMap.readRuns ["DD9>DDA DDC>DDD"]),
  (0xDCF, CodeMap.readRuns ["DD9>DDC"]),
  (0xDDF, CodeMap.readRuns ["DD9>DDE"]),
  (0x102E, CodeMap.readRuns ["1025>1026"]),
  (0x1B35, CodeMap.readRuns ["1B05~1B0D>1B06 1B11>1B12 1B3A~1B3C>1B3B 1B3E-1B3F>1B40 1B42>1B43"]),
  (0x3099, CodeMap.readRuns [
    "3046>3094 304B~3061>304C 3064~3068>3065 306F>3070 3072>3073 3075>3076 3078>3079 307B>307C 309D>309E",
    "30A6>30F4 30AB~30C1>30AC 30C4~30C8>30C5 30CF>30D0 30D2>30D3 30D5>30D6 30D8>30D9 30DB>30DC 30EF-30F2>30F7",
    "30FD>30FE"]),
  (0x309A, CodeMap.readRuns ["306F>3071 3072>3074 3075>3077 3078>307A 307B>307D 30CF>30D1 30D2>30D4",
    "30D5>30D7 30D8>30DA 30DB>30DD"]),
  (0x110BA, CodeMap.readRuns ["11099~1109B>1109A 110A5>110AB"]),
  (0x11127, CodeMap.readRuns ["11131-11132>1112E"]),
  (0x1133E, CodeMap.readRuns ["11347>1134B"]),
  (0x11357, CodeMap.readRuns ["11347>1134C"]),
  (0x113B8, CodeMap.readRuns ["113C2>113C7"]),
  (0x113BB, CodeMap.readRuns ["11384>11385"]),
  (0x113C2, CodeMap.readRuns ["1138B>1138E 113C2>113C5"]),
  (0x113C9, CodeMap.readRuns ["11382>11383 11390>11391 113C2>113C8"]),
  (0x114B0, CodeMap.readRuns ["114B9>114BC"]),
  (0x114BA, CodeMap.readRuns ["114B9>114BB"]),
  (0x114BD, CodeMap.readRuns ["114B9>114BE"]),
  (0x115AF, CodeMap.readRuns ["115B8-115B9>115BA"]),
  (0x11930, CodeMap.readRuns ["11935>11938"]),
  (0x1611E, CodeMap.readRuns ["1611E>16121"]),
  (0x1611F, CodeMap.readRuns ["1611E>16123 16121-16122>16126 16129>16124"]),
  (0x16120, CodeMap.readRuns ["1611E>16125 16121>16128"]),
  (0x16129, CodeMap.readRuns ["1611E>16122"]),
  (0x16D67, CodeMap.readRuns ["16D63>16D69 16D67~16D69>16D68"])]

/-- The marks of each class that can change places with marks of other classes. -/
def classes : List (Nat × CodeSet) := [
  (1, readRanges ["334-338 1CD4 1CE2-1CE8 20D2-20D3 20D8-20DA 20E5-20E6 20EA-20EB 10A39 16AF0-16AF4 1BC9E",
    "1D167-1D169"]),
  (6, readRanges ["16FF0-16FF1"]),
  (7, readRanges [
    "93C 9BC A3C ABC B3C C3C CBC 1037 1B34 1BE6 1C37 A9B3 110BA 11173 111CA 11236 112E9 1133B-1133C 11446",
    "114C3 115C0 116B7 1183A 11943 11D42 1E94A"]),
  (8, readRanges ["3099-309A"]),
  (9, readRanges [
    "94D 9CD A4D ACD B4D BCD C4D CCD D3B-D3C D4D DCA E3A EBA F84 1039-103A 1714-1715 1734 17D2 1A60 1B44",
    "1BAA-1BAB 1BF2-1BF3 2D7F A806 A82C A8C4 A953 A9C0 AAF6 ABED 10A3F 11046 11070 1107F 110B9 11133-11134",
    "111C0 11235 112EA 1134D 113CE-113D0 11442 114C2 115BF 1163F 116B6 1172B 11839 1193D-1193E 119E0 11A34",
    "11A47 11A99 11C3F 11D44-11D45 11D97 11F41-11F42 1612F"]),
  (10, readRanges ["5B0"]),
  (11, readRanges ["5B1"]),
  (12, readRanges ["5B2"]),
  (13, readRanges ["5B3"]),
  (14, readRanges ["5B4"]),
  (15, readRanges ["5B5"]),
  (16, readRanges ["5B6"]),
  (17, readRanges ["5B7"]),
  (18, readRanges ["5B8 5C7"]),
  (19, readRanges ["5B9-5BA"]),
  (20, readRanges ["5BB"]),
  (21, readRanges ["5BC"]),
  (22, readRanges ["5BD"]),
  (23, readRanges ["5BF"]),
  (24, readRanges ["5C1"]),
  (25, readRanges ["5C2"]),
  (26, readRanges ["FB1E"]),
  (27, readRanges ["64B 8F0"]),
  (28, readRanges ["64C 8F1"]),
  (29, readRanges ["64D 8F2"]),
  (30, readRanges ["618 64E"]),
  (31, readRanges ["619 64F"]),
  (32, readRanges ["61A 650"]),
  (33, readRanges ["651"]),
  (34, readRanges ["652"]),
  (35, readRanges ["670"]),
  (36, readRanges ["711"]),
  (84, readRanges ["C55"]),
  (91, readRanges ["C56"]),
  (103, readRanges ["E38-E39"]),
  (107, readRanges ["E48-E4B"]),
  (118, readRanges ["EB8-EB9"]),
  (122, readRanges ["EC8-ECB"]),
  (129, readRanges ["F71"]),
  (130, readRanges ["F72 F7A-F7D F80"]),
  (132, readRanges ["F74"]),
  (202, readRanges ["321-322 327-328 1DD0"]),
  (214, readRanges ["1DCE"]),
  (216, readRanges ["31B F39 1D165-1D166 1D16E-1D172"]),
  (218, readRanges ["1DFA 302A"]),
  (220, readRanges [
    "316-319 31C-320 323-326 329-333 339-33C 347-349 34D-34E 353-356 359-35A 591 596 59B 5A2-5A7 5AA 5C5",
    "655-656 65C 65F 6E3 6EA 6ED 731 734 737-739 73B-73C 73E 742~748 7F2 7FD 859-85B 899-89B 8CF-8D3 8E3 8E6",
    "8E9 8ED-8EF 8F6 8F9-8FA 952 F18-F19 F35 F37 FC6 108D 193B 1A18 1A7F 1AB5-1ABA 1ABD 1ABF-1AC0 1AC3-1AC4",
    "1ACA 1B6C 1CD5-1CD9 1CDC-1CDF 1CED 1DC2 1DCA 1DCF 1DF9 1DFD 1DFF 20E8 20EC-20EF A92B-A92D AAB4 FE27-FE2D",
    "101FD 102E0 10A0D 10A3A 10AE6 10EFD-10EFF 10F46-10F47 10F4B 10F4D-10F50 10F83 10F85 1D17B-1D182",
    "1D18A-1D18B 1E4EE 1E8D0-1E8D6"]),
  (222, readRanges ["59A 5AD 1939 302D"]),
  (224, readRanges ["302E-302F"]),
  (226, readRanges ["1D16D"]),
  (228, readRanges ["5AE 18A9 1DF7-1DF8 302B"]),
  (230, readRanges [
    "300-314 33D-344 346 34A-34C 350-352 357 35B 363-36F 483-487 592-595 597-599 59C-5A1 5A8-5A9 5AB-5AC 5AF",
    "5C4 610-617 653-654 657-65B 65D-65E 6D6-6DC 6DF-6E2 6E4 6E7-6E8 6EB-6EC 730 732-733 735-736 73A 73D",
    "73F-741 743~747 749-74A 7EB-7F1 7F3 816-819 81B-823 825-827 829-82D 897-898 89C-89F 8CA-8CE 8D4-8E1",
    "8E4-8E5 8E7-8E8 8EA-8EC 8F3-8F5 8F7-8F8 8FB-8FF 951 953-954 9FE F82-F83 F86-F87 135D-135F 17DD 193A 1A17",
    "1A75-1A7C 1AB0-1AB4 1ABB-1ABC 1AC1-1AC2 1AC5-1AC9 1ACB-1ACE 1B6B 1B6D-1B73 1CD0-1CD2 1CDA-1CDB 1CE0 1CF4",
    "1CF8-1CF9 1DC0-1DC1 1DC3-1DC9 1DCB-1DCC 1DD1-1DF5 1DFB 1DFE 20D0-20D1 20D4-20D7 20DB-20DC 20E1 20E7 20E9",
    "20F0 2CEF-2CF1 2DE0-2DFF A66F A674-A67D A69E-A69F A6F0-A6F1 A8E0-A8F1 AAB0 AAB2-AAB3 AAB7-AAB8 AABE-AABF",
    "AAC1 FE20-FE26 FE2E-FE2F 10376-1037A 10A0F 10A38 10AE5 10D24-10D27 10D69-10D6D 10EAB-10EAC 10EFC",
    "10F48-10F4A 10F4C 10F82 10F84 11100-11102 11366-1136C 11370-11374 113E1-113E2 1145E 16B30-16B36",
    "1D185-1D189 1D1AA-1D1AD 1D242-1D244 1E000-1E006 1E008-1E018 1E01B-1E021 1E023-1E024 1E026-1E02A 1E08F",
    "1E130-1E136 1E2AE 1E2EC-1E2EF 1E4EF 1E5EE-1E5EF 1E944-1E949"]),
  (232, readRanges ["315 31A 358 1DF6 302C 1E4EC-1E4ED"]),
  (233, readRanges ["35C 35F 362 1DFC"]),
  (234, readRanges ["35D-35E 360-361 1DCD"]),
  (240, readRanges ["345"])]

/-- The class of a character; only marks have another one than zero. -/
def markClass (n : Nat) : Nat := ((classes.find? fun k => k.2.contains n).map (·.1)).getD 0

end SiteProbe.Unicode.Composition
