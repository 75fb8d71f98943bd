import RemoteDrive.Text.RunTable

/-!
# Directions of writing

A character is written from left to right or from right to left, or takes its direction from its
neighbours. `Direction` has one constructor for each bidirectional class of the Unicode standard
that can stand in a line of text, and `other` for those that separate or embed.
-/

set_option autoImplicit false

namespace RemoteDrive.Text

inductive Direction where
  | leftToRight
  | rightToLeft
  /-- From right to left, as the letters of Arabic and its kin are. -/
  | arabicLetter
  | europeanNumber
  | europeanSeparator
  | europeanTerminator
  | arabicNumber
  | commonSeparator
  | nonspacingMark
  | boundaryNeutral
  | otherNeutral
  | other
deriving DecidableEq

/-- The direction that a letter of the table means. -/
def Direction.ofLetter : Char → Direction
  | 'l' => leftToRight
  | 'r' => rightToLeft
  | 'k' => arabicLetter
  | 'e' => europeanNumber
  | 's' => europeanSeparator
  | 't' => europeanTerminator
  | 'a' => arabicNumber
  | 'c' => commonSeparator
  | 'n' => nonspacingMark
  | 'b' => boundaryNeutral
  | 'o' => otherNeutral
  | _ => other

/-- The runs of one direction, by the letter of `Direction.ofLetter`. -/
def directionText : String :=
  "b0 x9 bE x1C o21 t23 o26 s2B c2C s2D c2E e30 c3A o3B l41 o5B l61 o7B b7F x85 b86 cA0 oA1 tA2
   oA6 lAA oAB bAD oAE tB0 eB2 oB4 lB5 oB6 eB9 lBA oBB lC0 oD7 lD8 oF7 lF8 o2B9 l2BB o2C2 l2D0
   o2D2 l2E0 o2E5 l2EE o2EF n300 l370 o374 l376 o37E l37F o384 l386 o387 l388 o3F6 l3F7 n483 l48A
   o58A l58B o58D t58F r590 n591 r5BE n5BF r5C0 n5C1 r5C3 n5C4 r5C6 n5C7 r5C8 a600 o606 k608 t609
   k60B c60C k60D o60E n610 k61B n64B a660 t66A a66B k66D n670 k671 n6D6 a6DD o6DE n6DF k6E5 n6E7
   o6E9 n6EA k6EE e6F0 k6FA n711 k712 n730 k74B n7A6 k7B1 r7C0 n7EB r7F4 o7F6 r7FA n7FD r7FE n816
   r81A n81B r824 n825 r828 n829 r82E n859 r85C k860 a890 k892 n897 k8A0 n8CA a8E2 n8E3 l903 n93A
   l93B n93C l93D n941 l949 n94D l94E n951 l958 n962 l964 n981 l982 n9BC l9BD n9C1 l9C5 n9CD l9CE
   n9E2 l9E4 t9F2 l9F4 t9FB l9FC n9FE l9FF nA01 lA03 nA3C lA3D nA41 lA43 nA47 lA49 nA4B lA4E nA51
   lA52 nA70 lA72 nA75 lA76 nA81 lA83 nABC lABD nAC1 lAC6 nAC7 lAC9 nACD lACE nAE2 lAE4 tAF1 lAF2
   nAFA lB00 nB01 lB02 nB3C lB3D nB3F lB40 nB41 lB45 nB4D lB4E nB55 lB57 nB62 lB64 nB82 lB83 nBC0
   lBC1 nBCD lBCE oBF3 tBF9 oBFA lBFB nC00 lC01 nC04 lC05 nC3C lC3D nC3E lC41 nC46 lC49 nC4A lC4E
   nC55 lC57 nC62 lC64 oC78 lC7F nC81 lC82 nCBC lCBD nCCC lCCE nCE2 lCE4 nD00 lD02 nD3B lD3D nD41
   lD45 nD4D lD4E nD62 lD64 nD81 lD82 nDCA lDCB nDD2 lDD5 nDD6 lDD7 nE31 lE32 nE34 lE3B tE3F lE40
   nE47 lE4F nEB1 lEB2 nEB4 lEBD nEC8 lECF nF18 lF1A nF35 lF36 nF37 lF38 nF39 oF3A lF3E nF71 lF7F
   nF80 lF85 nF86 lF88 nF8D lF98 nF99 lFBD nFC6 lFC7 n102D l1031 n1032 l1038 n1039 l103B n103D
   l103F n1058 l105A n105E l1061 n1071 l1075 n1082 l1083 n1085 l1087 n108D l108E n109D l109E
   n135D l1360 o1390 l139A o1400 l1401 x1680 l1681 o169B l169D n1712 l1715 n1732 l1734 n1752
   l1754 n1772 l1774 n17B4 l17B6 n17B7 l17BE n17C6 l17C7 n17C9 l17D4 t17DB l17DC n17DD l17DE
   o17F0 l17FA o1800 n180B b180E n180F l1810 n1885 l1887 n18A9 l18AA n1920 l1923 n1927 l1929
   n1932 l1933 n1939 l193C o1940 l1941 o1944 l1946 o19DE l1A00 n1A17 l1A19 n1A1B l1A1C n1A56
   l1A57 n1A58 l1A5F n1A60 l1A61 n1A62 l1A63 n1A65 l1A6D n1A73 l1A7D n1A7F l1A80 n1AB0 l1ADE
   n1AE0 l1AEC n1B00 l1B04 n1B34 l1B35 n1B36 l1B3B n1B3C l1B3D n1B42 l1B43 n1B6B l1B74 n1B80
   l1B82 n1BA2 l1BA6 n1BA8 l1BAA n1BAB l1BAE n1BE6 l1BE7 n1BE8 l1BEA n1BED l1BEE n1BEF l1BF2
   n1C2C l1C34 n1C36 l1C38 n1CD0 l1CD3 n1CD4 l1CE1 n1CE2 l1CE9 n1CED l1CEE n1CF4 l1CF5 n1CF8
   l1CFA n1DC0 l1E00 o1FBD l1FBE o1FBF l1FC2 o1FCD l1FD0 o1FDD l1FE0 o1FED l1FF0 o1FFD l1FFF
   x2000 b200B l200E r200F o2010 x2028 c202F t2030 o2035 c2044 o2045 x205F b2060 x2066 b206A
   e2070 l2071 e2074 s207A o207C l207F e2080 s208A o208C l208F t20A0 n20D0 l20F1 o2100 l2102
   o2103 l2107 o2108 l210A o2114 l2115 o2116 l2119 o211E l2124 o2125 l2126 o2127 l2128 o2129
   l212A t212E l212F o213A l213C o2140 l2145 o214A l214E o2150 l2160 o2189 l218C o2190 s2212
   t2213 o2214 l2336 o237B l2395 o2396 l242A o2440 l244B o2460 e2488 l249C o24EA l26AC o26AD
   l2800 o2900 l2B74 o2B76 l2C00 o2CE5 l2CEB n2CEF l2CF2 o2CF9 l2D00 n2D7F l2D80 n2DE0 o2E00
   l2E5E o2E80 l2E9A o2E9B l2EF4 o2F00 l2FD6 o2FF0 x3000 o3001 l3005 o3008 l3021 n302A l302E
   o3030 l3031 o3036 l3038 o303D l3040 n3099 o309B l309D o30A0 l30A1 o30FB l30FC o31C0 l31E6
   o31EF l31F0 o321D l321F o3250 l3260 o327C l327F o32B1 l32C0 o32CC l32D0 o3377 l337B o33DE
   l33E0 o33FF l3400 o4DC0 l4E00 oA490 lA4C7 oA60D lA610 nA66F oA673 nA674 oA67E lA680 nA69E
   lA6A0 nA6F0 lA6F2 oA700 lA722 oA788 lA789 nA802 lA803 nA806 lA807 nA80B lA80C nA825 lA827
   oA828 nA82C lA82D tA838 lA83A oA874 lA878 nA8C4 lA8C6 nA8E0 lA8F2 nA8FF lA900 nA926 lA92E
   nA947 lA952 nA980 lA983 nA9B3 lA9B4 nA9B6 lA9BA nA9BC lA9BE nA9E5 lA9E6 nAA29 lAA2F nAA31
   lAA33 nAA35 lAA37 nAA43 lAA44 nAA4C lAA4D nAA7C lAA7D nAAB0 lAAB1 nAAB2 lAAB5 nAAB7 lAAB9
   nAABE lAAC0 nAAC1 lAAC2 nAAEC lAAEE nAAF6 lAAF7 oAB6A lAB6C nABE5 lABE6 nABE8 lABE9 nABED
   lABEE rFB1D nFB1E rFB1F sFB29 rFB2A kFB50 oFBC3 kFBD3 oFD3E kFD50 oFD90 kFD92 oFDC8 bFDD0
   kFDF0 oFDFD nFE00 oFE10 lFE1A nFE20 oFE30 cFE50 oFE51 cFE52 lFE53 oFE54 cFE55 oFE56 tFE5F
   oFE60 sFE62 oFE64 lFE67 oFE68 tFE69 oFE6B lFE6C kFE70 bFEFF lFF00 oFF01 tFF03 oFF06 sFF0B
   cFF0C sFF0D cFF0E eFF10 cFF1A oFF1B lFF21 oFF3B lFF41 oFF5B lFF66 tFFE0 oFFE2 tFFE5 lFFE7
   oFFE8 lFFEF bFFF0 oFFF9 bFFFE l10000 o10101 l10102 o10140 l1018D o10190 l1019D o101A0 l101A1
   n101FD l101FE n102E0 e102E1 l102FC n10376 l1037B r10800 o1091F r10920 n10A01 r10A04 n10A05
   r10A07 n10A0C r10A10 n10A38 r10A3B n10A3F r10A40 n10AE5 r10AE7 o10B39 r10B40 k10D00 n10D24
   k10D28 a10D30 k10D3A a10D40 r10D4A n10D69 o10D6E r10D6F a10E60 r10E7F n10EAB r10EAD k10EC0
   o10ED0 k10ED9 n10EFA r10F00 k10F30 n10F46 k10F51 r10F70 n10F82 r10F86 l11000 n11001 l11002
   n11038 l11047 o11052 l11066 n11070 l11071 n11073 l11075 n1107F l11082 n110B3 l110B7 n110B9
   l110BB n110C2 l110C3 n11100 l11103 n11127 l1112C n1112D l11135 n11173 l11174 n11180 l11182
   n111B6 l111BF n111C9 l111CD n111CF l111D0 n1122F l11232 n11234 l11235 n11236 l11238 n1123E
   l1123F n11241 l11242 n112DF l112E0 n112E3 l112EB n11300 l11302 n1133B l1133D n11340 l11341
   n11366 l1136D n11370 l11375 n113BB l113C1 n113CE l113CF n113D0 l113D1 n113D2 l113D3 n113E1
   l113E3 n11438 l11440 n11442 l11445 n11446 l11447 n1145E l1145F n114B3 l114B9 n114BA l114BB
   n114BF l114C1 n114C2 l114C4 n115B2 l115B6 n115BC l115BE n115BF l115C1 n115DC l115DE n11633
   l1163B n1163D l1163E n1163F l11641 o11660 l1166D n116AB l116AC n116AD l116AE n116B0 l116B6
   n116B7 l116B8 n1171D l1171E n1171F l11720 n11722 l11726 n11727 l1172C n1182F l11838 n11839
   l1183B n1193B l1193D n1193E l1193F n11943 l11944 n119D4 l119D8 n119DA l119DC n119E0 l119E1
   n11A01 l11A07 n11A09 l11A0B n11A33 l11A39 n11A3B l11A3F n11A47 l11A48 n11A51 l11A57 n11A59
   l11A5C n11A8A l11A97 n11A98 l11A9A n11B60 l11B61 n11B62 l11B65 n11B66 l11B67 n11C30 l11C37
   n11C38 l11C3E n11C92 l11CA8 n11CAA l11CB1 n11CB2 l11CB4 n11CB5 l11CB7 n11D31 l11D37 n11D3A
   l11D3B n11D3C l11D3E n11D3F l11D46 n11D47 l11D48 n11D90 l11D92 n11D95 l11D96 n11D97 l11D98
   n11EF3 l11EF5 n11F00 l11F02 n11F36 l11F3B n11F40 l11F41 n11F42 l11F43 n11F5A l11F5B o11FD5
   t11FDD o11FE1 l11FF2 n13440 l13441 n13447 l13456 n1611E l1612A n1612D l16130 n16AF0 l16AF5
   n16B30 l16B37 n16F4F l16F50 n16F8F l16F93 o16FE2 l16FE3 n16FE4 l16FE5 n1BC9D l1BC9F b1BCA0
   l1BCA4 o1CC00 l1CCD6 e1CCF0 o1CCFA l1CCFD o1CD00 l1CEB4 o1CEBA l1CED1 o1CEE0 l1CEF1 n1CF00
   l1CF2E n1CF30 l1CF47 n1D167 l1D16A b1D173 n1D17B l1D183 n1D185 l1D18C n1D1AA l1D1AE o1D1E9
   l1D1EB o1D200 n1D242 o1D245 l1D246 o1D300 l1D357 o1D6C1 l1D6C2 o1D6DB l1D6DC o1D6FB l1D6FC
   o1D715 l1D716 o1D735 l1D736 o1D74F l1D750 o1D76F l1D770 o1D789 l1D78A o1D7A9 l1D7AA o1D7C3
   l1D7C4 e1D7CE l1D800 n1DA00 l1DA37 n1DA3B l1DA6D n1DA75 l1DA76 n1DA84 l1DA85 n1DA9B l1DAA0
   n1DAA1 l1DAB0 n1E000 l1E007 n1E008 l1E019 n1E01B l1E022 n1E023 l1E025 n1E026 l1E02B n1E08F
   l1E090 n1E130 l1E137 n1E2AE l1E2AF n1E2EC l1E2F0 t1E2FF l1E300 n1E4EC l1E4F0 n1E5EE l1E5F0
   n1E6E3 l1E6E4 n1E6E6 l1E6E7 n1E6EE l1E6F0 n1E6F5 l1E6F6 r1E800 n1E8D0 r1E8D7 n1E944 r1E94B
   k1EC70 r1ECC0 k1ED00 r1ED50 k1EE00 o1EEF0 k1EEF2 r1EF00 o1F000 l1F02C o1F030 l1F094 o1F0A0
   l1F0AF o1F0B1 l1F0C0 o1F0C1 l1F0D0 o1F0D1 l1F0F6 e1F100 o1F10B l1F110 o1F12F l1F130 o1F16A
   l1F170 o1F1AD l1F1AE o1F260 l1F266 o1F300 l1F6D9 o1F6DC l1F6ED o1F6F0 l1F6FD o1F700 l1F7DA
   o1F7E0 l1F7EC o1F7F0 l1F7F1 o1F800 l1F80C o1F810 l1F848 o1F850 l1F85A o1F860 l1F888 o1F890
   l1F8AE o1F8B0 l1F8BC o1F8C0 l1F8C2 o1F8D0 l1F8D9 o1F900 l1FA58 o1FA60 l1FA6E o1FA70 l1FA7D
   o1FA80 l1FA8B o1FA8E l1FAC7 o1FAC8 l1FAC9 o1FACD l1FADD o1FADF l1FAEB o1FAEF l1FAF9 o1FB00
   l1FB93 o1FB94 e1FBF0 o1FBFA l1FBFB b1FFFE l20000 b2FFFE l30000 b3FFFE l40000 b4FFFE l50000
   b5FFFE l60000 b6FFFE l70000 b7FFFE l80000 b8FFFE l90000 b9FFFE lA0000 bAFFFE lB0000 bBFFFE
   lC0000 bCFFFE lD0000 bDFFFE nE0100 bE01F0 lE1000 bEFFFE lF0000 bFFFFE l100000 b10FFFE"

def directionTable : RunTable := .ofText directionText

/-- The direction of a character. -/
def Direction.of (c : Char) : Direction :=
  (directionTable.find? c).elim other fun run => ofLetter run.letter

end RemoteDrive.Text
