import Refetch.Text.Runs
import Refetch.Text.Table
/-!
# Character classes of domain labels

The direction classes and the joining classes that the rules for labels of right-to-left scripts and
for invisible joiners look at. A character that no span holds has class zero.
-/

namespace Refetch.Url.Idna

/-- Directions of characters, as far as labels tell them apart. -/
inductive Direction
  | left | right | arabic | arabicNumber | digit | separator | commonSeparator | terminator
  | neutral | boundary | mark | foreign
  deriving Repr, DecidableEq

/-- Spans of characters that are not left to right. -/
def directionText : String := "
  0 9 A 9 1 0 A 1 0 B 1 0 C 1 0 D 1 0 E E A 1C 3 0 1F 1 0 20 1 0 21 2 9 23 3 8 26 5 9 2B 1 6 2C
  1 7 2D 1 6 2E 2 7 30 A 5 3A 1 7 3B 6 9 5B 6 9 7B 4 9 7F 6 A 85 1 0 86 1A A A0 1 7 A1 1 9 A2 4
  8 A6 4 9 AB 2 9 AD 1 A AE 2 9 B0 2 8 B2 2 5 B4 1 9 B6 3 9 B9 1 5 BB 5 9 D7 1 9 F7 1 9 2B9 2 9
  2C2 E 9 2D2 E 9 2E5 9 9 2EF 11 9 300 70 B 374 2 9 37E 1 9 384 2 9 387 1 9 3F6 1 9 483 7 B 58A
  1 9 58D 2 9 58F 1 8 590 1 2 591 2D B 5BE 1 2 5BF 1 B 5C0 1 2 5C1 2 B 5C3 1 2 5C4 2 B 5C6 1 2
  5C7 1 B 5C8 38 2 600 6 4 606 2 9 608 1 3 609 2 8 60B 1 3 60C 1 7 60D 1 3 60E 2 9 610 B B 61B
  30 3 64B 15 B 660 A 4 66A 1 8 66B 2 4 66D 3 3 670 1 B 671 65 3 6D6 7 B 6DD 1 4 6DE 1 9 6DF 6
  B 6E5 2 3 6E7 2 B 6E9 1 9 6EA 4 B 6EE 2 3 6F0 A 5 6FA 17 3 711 1 B 712 1E 3 730 1B B 74B 5B 3
  7A6 B B 7B1 F 3 7C0 2B 2 7EB 9 B 7F4 2 2 7F6 4 9 7FA 3 2 7FD 1 B 7FE 18 2 816 4 B 81A 1 2 81B
  9 B 824 1 2 825 3 B 828 1 2 829 5 B 82E 2B 2 859 3 B 85C 4 2 860 30 3 890 2 4 892 6 3 898 8 B
  8A0 2A 3 8CA 18 B 8E2 1 4 8E3 20 B 93A 1 B 93C 1 B 941 8 B 94D 1 B 951 7 B 962 2 B 981 1 B
  9BC 1 B 9C1 4 B 9CD 1 B 9E2 2 B 9F2 2 8 9FB 1 8 9FE 1 B A01 2 B A3C 1 B A41 2 B A47 2 B A4B 3
  B A51 1 B A70 2 B A75 1 B A81 2 B ABC 1 B AC1 5 B AC7 2 B ACD 1 B AE2 2 B AF1 1 8 AFA 6 B B01
  1 B B3C 1 B B3F 1 B B41 4 B B4D 1 B B55 2 B B62 2 B B82 1 B BC0 1 B BCD 1 B BF3 6 9 BF9 1 8
  BFA 1 9 C00 1 B C04 1 B C3C 1 B C3E 3 B C46 3 B C4A 4 B C55 2 B C62 2 B C78 7 9 C81 1 B CBC 1
  B CCC 2 B CE2 2 B D00 2 B D3B 2 B D41 4 B D4D 1 B D62 2 B D81 1 B DCA 1 B DD2 3 B DD6 1 B E31
  1 B E34 7 B E3F 1 8 E47 8 B EB1 1 B EB4 9 B EC8 7 B F18 2 B F35 1 B F37 1 B F39 1 B F3A 4 9
  F71 E B F80 5 B F86 2 B F8D B B F99 24 B FC6 1 B 102D 4 B 1032 6 B 1039 2 B 103D 2 B 1058 2 B
  105E 3 B 1071 4 B 1082 1 B 1085 2 B 108D 1 B 109D 1 B 135D 3 B 1390 A 9 1400 1 9 1680 1 0
  169B 2 9 1712 3 B 1732 2 B 1752 2 B 1772 2 B 17B4 2 B 17B7 7 B 17C6 1 B 17C9 B B 17DB 1 8
  17DD 1 B 17F0 A 9 1800 B 9 180B 3 B 180E 1 A 180F 1 B 1885 2 B 18A9 1 B 1920 3 B 1927 2 B
  1932 1 B 1939 3 B 1940 1 9 1944 2 9 19DE 22 9 1A17 2 B 1A1B 1 B 1A56 1 B 1A58 7 B 1A60 1 B
  1A62 1 B 1A65 8 B 1A73 A B 1A7F 1 B 1AB0 1F B 1B00 4 B 1B34 1 B 1B36 5 B 1B3C 1 B 1B42 1 B
  1B6B 9 B 1B80 2 B 1BA2 4 B 1BA8 2 B 1BAB 3 B 1BE6 1 B 1BE8 2 B 1BED 1 B 1BEF 3 B 1C2C 8 B
  1C36 2 B 1CD0 3 B 1CD4 D B 1CE2 7 B 1CED 1 B 1CF4 1 B 1CF8 2 B 1DC0 40 B 1FBD 1 9 1FBF 3 9
  1FCD 3 9 1FDD 3 9 1FED 3 9 1FFD 2 9 2000 B 0 200B 3 A 200F 1 2 2010 18 9 2028 1 0 2029 1 0
  202A 1 0 202B 1 0 202C 1 0 202D 1 0 202E 1 0 202F 1 7 2030 5 8 2035 F 9 2044 1 7 2045 1A 9
  205F 1 0 2060 6 A 2066 1 0 2067 1 0 2068 1 0 2069 1 0 206A 6 A 2070 1 5 2074 6 5 207A 2 6
  207C 3 9 2080 A 5 208A 2 6 208C 3 9 20A0 30 8 20D0 21 B 2100 2 9 2103 4 9 2108 2 9 2114 1 9
  2116 3 9 211E 6 9 2125 1 9 2127 1 9 2129 1 9 212E 1 8 213A 2 9 2140 5 9 214A 4 9 2150 10 9
  2189 3 9 2190 82 9 2212 1 6 2213 1 8 2214 122 9 237B 1A 9 2396 91 9 2440 B 9 2460 28 9 2488
  14 5 24EA 1C2 9 26AD 153 9 2900 274 9 2B76 20 9 2B97 69 9 2CE5 6 9 2CEF 3 B 2CF9 7 9 2D7F 1 B
  2DE0 20 B 2E00 5E 9 2E80 1A 9 2E9B 59 9 2F00 D6 9 2FF0 C 9 3000 1 0 3001 4 9 3008 19 9 302A 4
  B 3030 1 9 3036 2 9 303D 3 9 3099 2 B 309B 2 9 30A0 1 9 30FB 1 9 31C0 24 9 321D 2 9 3250 10 9
  327C 3 9 32B1 F 9 32CC 4 9 3377 4 9 33DE 2 9 33FF 1 9 4DC0 40 9 A490 37 9 A60D 3 9 A66F 4 B
  A673 1 9 A674 A B A67E 2 9 A69E 2 B A6F0 2 B A700 22 9 A788 1 9 A802 1 B A806 1 B A80B 1 B
  A825 2 B A828 4 9 A82C 1 B A838 2 8 A874 4 9 A8C4 2 B A8E0 12 B A8FF 1 B A926 8 B A947 B B
  A980 3 B A9B3 1 B A9B6 4 B A9BC 2 B A9E5 1 B AA29 6 B AA31 2 B AA35 2 B AA43 1 B AA4C 1 B
  AA7C 1 B AAB0 1 B AAB2 3 B AAB7 2 B AABE 2 B AAC1 1 B AAEC 2 B AAF6 1 B AB6A 2 9 ABE5 1 B
  ABE8 1 B ABED 1 B FB1D 1 2 FB1E 1 B FB1F A 2 FB29 1 6 FB2A 26 2 FB50 1EE 3 FD3E 12 9 FD50 7F
  3 FDCF 1 9 FDD0 20 A FDF0 D 3 FDFD 3 9 FE00 10 B FE10 A 9 FE20 10 B FE30 20 9 FE50 1 7 FE51 1
  9 FE52 1 7 FE54 1 9 FE55 1 7 FE56 9 9 FE5F 1 8 FE60 2 9 FE62 2 6 FE64 3 9 FE68 1 9 FE69 2 8
  FE6B 1 9 FE70 8F 3 FEFF 1 A FF01 2 9 FF03 3 8 FF06 5 9 FF0B 1 6 FF0C 1 7 FF0D 1 6 FF0E 2 7
  FF10 A 5 FF1A 1 7 FF1B 6 9 FF3B 6 9 FF5B B 9 FFE0 2 8 FFE2 3 9 FFE5 2 8 FFE8 7 9 FFF0 9 A
  FFF9 5 9 FFFE 2 A 10101 1 9 10140 4D 9 10190 D 9 101A0 1 9 101FD 1 B 102E0 1 B 102E1 1B 5
  10376 5 B 10800 11F 2 1091F 1 9 10920 E1 2 10A01 3 B 10A04 1 2 10A05 2 B 10A07 5 2 10A0C 4 B
  10A10 28 2 10A38 3 B 10A3B 4 2 10A3F 1 B 10A40 A5 2 10AE5 2 B 10AE7 52 2 10B39 7 9 10B40 1C0
  2 10D00 24 3 10D24 4 B 10D28 8 3 10D30 A 4 10D3A 6 3 10D40 120 2 10E60 1F 4 10E7F 2C 2 10EAB
  2 B 10EAD 13 2 10EC0 3D 3 10EFD 3 B 10F00 30 2 10F30 16 3 10F46 B B 10F51 1F 3 10F70 12 2
  10F82 4 B 10F86 7A 2 11001 1 B 11038 F B 11052 14 9 11070 1 B 11073 2 B 1107F 3 B 110B3 4 B
  110B9 2 B 110C2 1 B 11100 3 B 11127 5 B 1112D 8 B 11173 1 B 11180 2 B 111B6 9 B 111C9 4 B
  111CF 1 B 1122F 3 B 11234 1 B 11236 2 B 1123E 1 B 11241 1 B 112DF 1 B 112E3 8 B 11300 2 B
  1133B 2 B 11340 1 B 11366 7 B 11370 5 B 11438 8 B 11442 3 B 11446 1 B 1145E 1 B 114B3 6 B
  114BA 1 B 114BF 2 B 114C2 2 B 115B2 4 B 115BC 2 B 115BF 2 B 115DC 2 B 11633 8 B 1163D 1 B
  1163F 2 B 11660 D 9 116AB 1 B 116AD 1 B 116B0 6 B 116B7 1 B 1171D 3 B 11722 4 B 11727 5 B
  1182F 9 B 11839 2 B 1193B 2 B 1193E 1 B 11943 1 B 119D4 4 B 119DA 2 B 119E0 1 B 11A01 6 B
  11A09 2 B 11A33 6 B 11A3B 4 B 11A47 1 B 11A51 6 B 11A59 3 B 11A8A D B 11A98 2 B 11C30 7 B
  11C38 6 B 11C92 16 B 11CAA 7 B 11CB2 2 B 11CB5 2 B 11D31 6 B 11D3A 1 B 11D3C 2 B 11D3F 7 B
  11D47 1 B 11D90 2 B 11D95 1 B 11D97 1 B 11EF3 2 B 11F00 2 B 11F36 5 B 11F40 1 B 11F42 1 B
  11FD5 8 9 11FDD 4 8 11FE1 11 9 13440 1 B 13447 F B 16AF0 5 B 16B30 7 B 16F4F 1 B 16F8F 4 B
  16FE2 1 9 16FE4 1 B 1BC9D 2 B 1BCA0 4 A 1CF00 2E B 1CF30 17 B 1D167 3 B 1D173 8 A 1D17B 8 B
  1D185 7 B 1D1AA 4 B 1D1E9 2 9 1D200 42 9 1D242 3 B 1D245 1 9 1D300 57 9 1D6DB 1 9 1D715 1 9
  1D74F 1 9 1D789 1 9 1D7C3 1 9 1D7CE 32 5 1DA00 37 B 1DA3B 32 B 1DA75 1 B 1DA84 1 B 1DA9B 5 B
  1DAA1 F B 1E000 7 B 1E008 11 B 1E01B 7 B 1E023 2 B 1E026 5 B 1E08F 1 B 1E130 7 B 1E2AE 1 B
  1E2EC 4 B 1E2FF 1 8 1E4EC 4 B 1E800 D0 2 1E8D0 7 B 1E8D7 6D 2 1E944 7 B 1E94B 325 2 1EC70 50
  3 1ECC0 40 2 1ED00 50 3 1ED50 B0 2 1EE00 F0 3 1EEF0 2 9 1EEF2 E 3 1EF00 100 2 1F000 2C 9
  1F030 64 9 1F0A0 F 9 1F0B1 F 9 1F0C1 F 9 1F0D1 25 9 1F100 B 5 1F10B 5 9 1F12F 1 9 1F16A 6 9
  1F1AD 1 9 1F260 6 9 1F300 3D8 9 1F6DC 11 9 1F6F0 D 9 1F700 77 9 1F77B 5F 9 1F7E0 C 9 1F7F0 1
  9 1F800 C 9 1F810 38 9 1F850 A 9 1F860 28 9 1F890 1E 9 1F8B0 2 9 1F900 154 9 1FA60 E 9 1FA70
  D 9 1FA80 9 9 1FA90 2E 9 1FABF 7 9 1FACE E 9 1FAE0 9 9 1FAF0 9 9 1FB00 93 9 1FB94 37 9 1FBF0
  A 5 1FFFE 2 A 2FFFE 2 A 3FFFE 2 A 4FFFE 2 A 5FFFE 2 A 6FFFE 2 A 7FFFE 2 A 8FFFE 2 A 9FFFE 2 A
  AFFFE 2 A BFFFE 2 A CFFFE 2 A DFFFE 102 A E0100 F0 B E01F0 E10 A EFFFE 2 A FFFFE 2 A 10FFFE 2
  A"

/-- Spans of characters that join their neighbours: on both sides, to the left, to the right, or
without regard to them. -/
def joiningText : String := "
  AD 1 4 300 70 4 483 7 4 591 2D 4 5BF 1 4 5C1 2 4 5C4 2 4 5C7 1 4 610 B 4 61C 1 4 620 1 1 622
  4 3 626 1 1 627 1 3 628 1 1 629 1 3 62A 5 1 62F 4 3 633 D 1 641 7 1 648 1 3 649 2 1 64B 15 4
  66E 2 1 670 1 4 671 3 3 675 3 3 678 10 1 688 12 3 69A 26 1 6C0 1 3 6C1 2 1 6C3 9 3 6CC 1 1
  6CD 1 3 6CE 1 1 6CF 1 3 6D0 2 1 6D2 2 3 6D5 1 3 6D6 7 4 6DF 6 4 6E7 2 4 6EA 4 4 6EE 2 3 6FA 3
  1 6FF 1 1 70F 1 4 710 1 3 711 1 4 712 3 1 715 5 3 71A 4 1 71E 1 3 71F 9 1 728 1 3 729 1 1 72A
  1 3 72B 1 1 72C 1 3 72D 2 1 72F 1 3 730 1B 4 74D 1 3 74E B 1 759 3 3 75C F 1 76B 2 3 76D 4 1
  771 1 3 772 1 1 773 2 3 775 3 1 778 2 3 77A 6 1 7A6 B 4 7CA 21 1 7EB 9 4 7FD 1 4 816 4 4 81B
  9 4 825 3 4 829 5 4 840 1 3 841 5 1 846 2 3 848 1 1 849 1 3 84A A 1 854 1 3 855 1 1 856 3 3
  859 3 4 860 1 1 862 4 1 867 1 3 868 1 1 869 2 3 870 13 3 886 1 1 889 5 1 88E 1 3 898 8 4 8A0
  A 1 8AA 3 3 8AE 1 3 8AF 2 1 8B1 2 3 8B3 6 1 8B9 1 3 8BA F 1 8CA 18 4 8E3 20 4 93A 1 4 93C 1 4
  941 8 4 94D 1 4 951 7 4 962 2 4 981 1 4 9BC 1 4 9C1 4 4 9CD 1 4 9E2 2 4 9FE 1 4 A01 2 4 A3C 1
  4 A41 2 4 A47 2 4 A4B 3 4 A51 1 4 A70 2 4 A75 1 4 A81 2 4 ABC 1 4 AC1 5 4 AC7 2 4 ACD 1 4 AE2
  2 4 AFA 6 4 B01 1 4 B3C 1 4 B3F 1 4 B41 4 4 B4D 1 4 B55 2 4 B62 2 4 B82 1 4 BC0 1 4 BCD 1 4
  C00 1 4 C04 1 4 C3C 1 4 C3E 3 4 C46 3 4 C4A 4 4 C55 2 4 C62 2 4 C81 1 4 CBC 1 4 CBF 1 4 CC6 1
  4 CCC 2 4 CE2 2 4 D00 2 4 D3B 2 4 D41 4 4 D4D 1 4 D62 2 4 D81 1 4 DCA 1 4 DD2 3 4 DD6 1 4 E31
  1 4 E34 7 4 E47 8 4 EB1 1 4 EB4 9 4 EC8 7 4 F18 2 4 F35 1 4 F37 1 4 F39 1 4 F71 E 4 F80 5 4
  F86 2 4 F8D B 4 F99 24 4 FC6 1 4 102D 4 4 1032 6 4 1039 2 4 103D 2 4 1058 2 4 105E 3 4 1071 4
  4 1082 1 4 1085 2 4 108D 1 4 109D 1 4 135D 3 4 1712 3 4 1732 2 4 1752 2 4 1772 2 4 17B4 2 4
  17B7 7 4 17C6 1 4 17C9 B 4 17DD 1 4 1807 1 1 180B 3 4 180F 1 4 1820 59 1 1885 2 4 1887 22 1
  18A9 1 4 18AA 1 1 1920 3 4 1927 2 4 1932 1 4 1939 3 4 1A17 2 4 1A1B 1 4 1A56 1 4 1A58 7 4
  1A60 1 4 1A62 1 4 1A65 8 4 1A73 A 4 1A7F 1 4 1AB0 1F 4 1B00 4 4 1B34 1 4 1B36 5 4 1B3C 1 4
  1B42 1 4 1B6B 9 4 1B80 2 4 1BA2 4 4 1BA8 2 4 1BAB 3 4 1BE6 1 4 1BE8 2 4 1BED 1 4 1BEF 3 4
  1C2C 8 4 1C36 2 4 1CD0 3 4 1CD4 D 4 1CE2 7 4 1CED 1 4 1CF4 1 4 1CF8 2 4 1DC0 40 4 200B 1 4
  200E 2 4 202A 5 4 2060 5 4 206A 6 4 20D0 21 4 2CEF 3 4 2D7F 1 4 2DE0 20 4 302A 4 4 3099 2 4
  A66F 4 4 A674 A 4 A69E 2 4 A6F0 2 4 A802 1 4 A806 1 4 A80B 1 4 A825 2 4 A82C 1 4 A840 32 1
  A872 1 2 A8C4 2 4 A8E0 12 4 A8FF 1 4 A926 8 4 A947 B 4 A980 3 4 A9B3 1 4 A9B6 4 4 A9BC 2 4
  A9E5 1 4 AA29 6 4 AA31 2 4 AA35 2 4 AA43 1 4 AA4C 1 4 AA7C 1 4 AAB0 1 4 AAB2 3 4 AAB7 2 4
  AABE 2 4 AAC1 1 4 AAEC 2 4 AAF6 1 4 ABE5 1 4 ABE8 1 4 ABED 1 4 FB1E 1 4 FE00 10 4 FE20 10 4
  FEFF 1 4 FFF9 3 4 101FD 1 4 102E0 1 4 10376 5 4 10A01 3 4 10A05 2 4 10A0C 4 4 10A38 3 4 10A3F
  1 4 10AC0 5 1 10AC5 1 3 10AC7 1 3 10AC9 2 3 10ACD 1 2 10ACE 5 3 10AD3 4 1 10AD7 1 2 10AD8 5 1
  10ADD 1 3 10ADE 3 1 10AE1 1 3 10AE4 1 3 10AE5 2 4 10AEB 4 1 10AEF 1 3 10B80 1 1 10B81 1 3
  10B82 1 1 10B83 3 3 10B86 3 1 10B89 1 3 10B8A 2 1 10B8C 1 3 10B8D 1 1 10B8E 2 3 10B90 1 1
  10B91 1 3 10BA9 4 3 10BAD 2 1 10D00 1 2 10D01 21 1 10D22 1 3 10D23 1 1 10D24 4 4 10EAB 2 4
  10EFD 3 4 10F30 3 1 10F33 1 3 10F34 11 1 10F46 B 4 10F51 3 1 10F54 1 3 10F70 4 1 10F74 2 3
  10F76 C 1 10F82 4 4 10FB0 1 1 10FB2 2 1 10FB4 3 3 10FB8 1 1 10FB9 2 3 10FBB 2 1 10FBD 1 3
  10FBE 2 1 10FC1 1 1 10FC2 2 3 10FC4 1 1 10FC9 1 3 10FCA 1 1 10FCB 1 2 11001 1 4 11038 F 4
  11070 1 4 11073 2 4 1107F 3 4 110B3 4 4 110B9 2 4 110C2 1 4 11100 3 4 11127 5 4 1112D 8 4
  11173 1 4 11180 2 4 111B6 9 4 111C9 4 4 111CF 1 4 1122F 3 4 11234 1 4 11236 2 4 1123E 1 4
  11241 1 4 112DF 1 4 112E3 8 4 11300 2 4 1133B 2 4 11340 1 4 11366 7 4 11370 5 4 11438 8 4
  11442 3 4 11446 1 4 1145E 1 4 114B3 6 4 114BA 1 4 114BF 2 4 114C2 2 4 115B2 4 4 115BC 2 4
  115BF 2 4 115DC 2 4 11633 8 4 1163D 1 4 1163F 2 4 116AB 1 4 116AD 1 4 116B0 6 4 116B7 1 4
  1171D 3 4 11722 4 4 11727 5 4 1182F 9 4 11839 2 4 1193B 2 4 1193E 1 4 11943 1 4 119D4 4 4
  119DA 2 4 119E0 1 4 11A01 A 4 11A33 6 4 11A3B 4 4 11A47 1 4 11A51 6 4 11A59 3 4 11A8A D 4
  11A98 2 4 11C30 7 4 11C38 6 4 11C3F 1 4 11C92 16 4 11CAA 7 4 11CB2 2 4 11CB5 2 4 11D31 6 4
  11D3A 1 4 11D3C 2 4 11D3F 7 4 11D47 1 4 11D90 2 4 11D95 1 4 11D97 1 4 11EF3 2 4 11F00 2 4
  11F36 5 4 11F40 1 4 11F42 1 4 13430 11 4 13447 F 4 16AF0 5 4 16B30 7 4 16F4F 1 4 16F8F 4 4
  16FE4 1 4 1BC9D 2 4 1BCA0 4 4 1CF00 2E 4 1CF30 17 4 1D167 3 4 1D173 10 4 1D185 7 4 1D1AA 4 4
  1D242 3 4 1DA00 37 4 1DA3B 32 4 1DA75 1 4 1DA84 1 4 1DA9B 5 4 1DAA1 F 4 1E000 7 4 1E008 11 4
  1E01B 7 4 1E023 2 4 1E026 5 4 1E08F 1 4 1E130 7 4 1E2AE 1 4 1E2EC 4 4 1E4EC 4 4 1E8D0 7 4
  1E900 44 1 1E944 8 4 E0001 1 4 E0020 60 4 E0100 F0 4"

def spanValue (spans : List (Nat × Nat × Nat)) (n : Nat) : Option Nat :=
  (spans.find? fun (first, count, _) => first ≤ n && n < first + count).map (·.2.2)

def directions : List (Nat × Nat × Nat) := Text.Table.triples (Text.Table.numbers directionText)

def joinings : List (Nat × Nat × Nat) := Text.Table.triples (Text.Table.numbers joiningText)

def direction (c : Char) : Direction :=
  match spanValue directions c.toNat with
  | none => .left
  | some 2 => .right
  | some 3 => .arabic
  | some 4 => .arabicNumber
  | some 5 => .digit
  | some 6 => .separator
  | some 7 => .commonSeparator
  | some 8 => .terminator
  | some 9 => .neutral
  | some 10 => .boundary
  | some 11 => .mark
  | some _ => .foreign

/-- Joins the character after it. -/
def joinsNext (c : Char) : Bool := [some 1, some 2].contains (spanValue joinings c.toNat)

/-- Joins the character before it. -/
def joinsPrevious (c : Char) : Bool := [some 1, some 3].contains (spanValue joinings c.toNat)

/-- Is passed over when neighbours join. -/
def isTransparent (c : Char) : Bool := spanValue joinings c.toNat == some 4

/-- The general category `M`. -/
def markTurns : List Nat := [
  768, 880, 1155, 1162, 1425, 1470, 1471, 1472, 1473, 1475, 1476, 1478, 1479, 1480, 1552, 1563,
  1611, 1632, 1648, 1649, 1750, 1757, 1759, 1765, 1767, 1769, 1770, 1774, 1809, 1810, 1840, 1867,
  1958, 1969, 2027, 2036, 2045, 2046, 2070, 2074, 2075, 2084, 2085, 2088, 2089, 2094, 2137, 2140,
  2199, 2208, 2250, 2274, 2275, 2308, 2362, 2365, 2366, 2384, 2385, 2392, 2402, 2404, 2433, 2436,
  2492, 2493, 2494, 2501, 2503, 2505, 2507, 2510, 2519, 2520, 2530, 2532, 2558, 2559, 2561, 2564,
  2620, 2621, 2622, 2627, 2631, 2633, 2635, 2638, 2641, 2642, 2672, 2674, 2677, 2678, 2689, 2692,
  2748, 2749, 2750, 2758, 2759, 2762, 2763, 2766, 2786, 2788, 2810, 2816, 2817, 2820, 2876, 2877,
  2878, 2885, 2887, 2889, 2891, 2894, 2901, 2904, 2914, 2916, 2946, 2947, 3006, 3011, 3014, 3017,
  3018, 3022, 3031, 3032, 3072, 3077, 3132, 3133, 3134, 3141, 3142, 3145, 3146, 3150, 3157, 3159,
  3170, 3172, 3201, 3204, 3260, 3261, 3262, 3269, 3270, 3273, 3274, 3278, 3285, 3287, 3298, 3300,
  3315, 3316, 3328, 3332, 3387, 3389, 3390, 3397, 3398, 3401, 3402, 3406, 3415, 3416, 3426, 3428,
  3457, 3460, 3530, 3531, 3535, 3541, 3542, 3543, 3544, 3552, 3570, 3572, 3633, 3634, 3636, 3643,
  3655, 3663, 3761, 3762, 3764, 3773, 3784, 3791, 3864, 3866, 3893, 3894, 3895, 3896, 3897, 3898,
  3902, 3904, 3953, 3973, 3974, 3976, 3981, 3992, 3993, 4029, 4038, 4039, 4139, 4159, 4182, 4186,
  4190, 4193, 4194, 4197, 4199, 4206, 4209, 4213, 4226, 4238, 4239, 4240, 4250, 4254, 4957, 4960,
  5906, 5910, 5938, 5941, 5970, 5972, 6002, 6004, 6068, 6100, 6109, 6110, 6155, 6158, 6159, 6160,
  6277, 6279, 6313, 6314, 6432, 6444, 6448, 6460, 6679, 6684, 6741, 6751, 6752, 6781, 6783, 6784,
  6832, 6878, 6880, 6892, 6912, 6917, 6964, 6981, 7019, 7028, 7040, 7043, 7073, 7086, 7142, 7156,
  7204, 7224, 7376, 7379, 7380, 7401, 7405, 7406, 7412, 7413, 7415, 7418, 7616, 7680, 8400, 8433,
  11503, 11506, 11647, 11648, 11744, 11776, 12330, 12336, 12441, 12443, 42607, 42611, 42612,
  42622, 42654, 42656, 42736, 42738, 43010, 43011, 43014, 43015, 43019, 43020, 43043, 43048,
  43052, 43053, 43136, 43138, 43188, 43206, 43232, 43250, 43263, 43264, 43302, 43310, 43335,
  43348, 43392, 43396, 43443, 43457, 43493, 43494, 43561, 43575, 43587, 43588, 43596, 43598,
  43643, 43646, 43696, 43697, 43698, 43701, 43703, 43705, 43710, 43712, 43713, 43714, 43755,
  43760, 43765, 43767, 44003, 44011, 44012, 44014, 64286, 64287, 65024, 65040, 65056, 65072,
  66045, 66046, 66272, 66273, 66422, 66427, 68097, 68100, 68101, 68103, 68108, 68112, 68152,
  68155, 68159, 68160, 68325, 68327, 68900, 68904, 68969, 68974, 69291, 69293, 69370, 69376,
  69446, 69457, 69506, 69510, 69632, 69635, 69688, 69703, 69744, 69745, 69747, 69749, 69759,
  69763, 69808, 69819, 69826, 69827, 69888, 69891, 69927, 69941, 69957, 69959, 70003, 70004,
  70016, 70019, 70067, 70081, 70089, 70093, 70094, 70096, 70188, 70200, 70206, 70207, 70209,
  70210, 70367, 70379, 70400, 70404, 70459, 70461, 70462, 70469, 70471, 70473, 70475, 70478,
  70487, 70488, 70498, 70500, 70502, 70509, 70512, 70517, 70584, 70593, 70594, 70595, 70597,
  70598, 70599, 70603, 70604, 70609, 70610, 70611, 70625, 70627, 70709, 70727, 70750, 70751,
  70832, 70852, 71087, 71094, 71096, 71105, 71132, 71134, 71216, 71233, 71339, 71352, 71453,
  71468, 71724, 71739, 71984, 71990, 71991, 71993, 71995, 71999, 72000, 72001, 72002, 72004,
  72145, 72152, 72154, 72161, 72164, 72165, 72193, 72203, 72243, 72250, 72251, 72255, 72263,
  72264, 72273, 72284, 72330, 72346, 72544, 72552, 72751, 72759, 72760, 72768, 72850, 72872,
  72873, 72887, 73009, 73015, 73018, 73019, 73020, 73022, 73023, 73030, 73031, 73032, 73098,
  73103, 73104, 73106, 73107, 73112, 73459, 73463, 73472, 73474, 73475, 73476, 73524, 73531,
  73534, 73539, 73562, 73563, 78912, 78913, 78919, 78934, 90398, 90416, 92912, 92917, 92976,
  92983, 94031, 94032, 94033, 94088, 94095, 94099, 94180, 94181, 94192, 94194, 113821, 113823,
  118528, 118574, 118576, 118599, 119141, 119146, 119149, 119155, 119163, 119171, 119173, 119180,
  119210, 119214, 119362, 119365, 121344, 121399, 121403, 121453, 121461, 121462, 121476, 121477,
  121499, 121504, 121505, 121520, 122880, 122887, 122888, 122905, 122907, 122914, 122915, 122917,
  122918, 122923, 123023, 123024, 123184, 123191, 123566, 123567, 123628, 123632, 124140, 124144,
  124398, 124400, 124643, 124644, 124646, 124647, 124654, 124656, 124661, 124662, 125136, 125143,
  125252, 125259, 917760, 918000]

def isMark (c : Char) : Bool := 0x300 ≤ c.toNat && Text.inRuns markTurns c.toNat

end Refetch.Url.Idna
