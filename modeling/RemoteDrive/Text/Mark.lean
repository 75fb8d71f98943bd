import RemoteDrive.Text.RunTable

/-!
# Marks

A mark is a character of the Unicode categories Mn, Mc and Me: it belongs to the character before
it. Its combining class says which marks behind one character do not change their meaning by
changing places: those of different classes, 0 apart. The class of every other character is 0.
-/

set_option autoImplicit false

namespace RemoteDrive.Text

/-- The runs of marks (`m`, with their class) and of other characters (`o`). -/
def markText : String :=
  "o0 m300.E6 m315.E8 m316.DC m31A.E8 m31B.D8 m31C.DC m321.CA m323.DC m327.CA m329.DC m334.1
   m339.DC m33D.E6 m345.F0 m346.E6 m347.DC m34A.E6 m34D.DC m34F.0 m350.E6 m353.DC m357.E6 m358.E8
   m359.DC m35B.E6 m35C.E9 m35D.EA m35F.E9 m360.EA m362.E9 m363.E6 o370 m483.E6 m488.0 o48A
   m591.DC m592.E6 m596.DC m597.E6 m59A.DE m59B.DC m59C.E6 m5A2.DC m5A8.E6 m5AA.DC m5AB.E6
   m5AD.DE m5AE.E4 m5AF.E6 m5B0.A m5B1.B m5B2.C m5B3.D m5B4.E m5B5.F m5B6.10 m5B7.11 m5B8.12
   m5B9.13 m5BB.14 m5BC.15 m5BD.16 o5BE m5BF.17 o5C0 m5C1.18 m5C2.19 o5C3 m5C4.E6 m5C5.DC o5C6
   m5C7.12 o5C8 m610.E6 m618.1E m619.1F m61A.20 o61B m64B.1B m64C.1C m64D.1D m64E.1E m64F.1F
   m650.20 m651.21 m652.22 m653.E6 m655.DC m657.E6 m65C.DC m65D.E6 m65F.DC o660 m670.23 o671
   m6D6.E6 o6DD m6DF.E6 m6E3.DC m6E4.E6 o6E5 m6E7.E6 o6E9 m6EA.DC m6EB.E6 m6ED.DC o6EE m711.24
   o712 m730.E6 m731.DC m732.E6 m734.DC m735.E6 m737.DC m73A.E6 m73B.DC m73D.E6 m73E.DC m73F.E6
   m742.DC m743.E6 m744.DC m745.E6 m746.DC m747.E6 m748.DC m749.E6 o74B m7A6.0 o7B1 m7EB.E6
   m7F2.DC m7F3.E6 o7F4 m7FD.DC o7FE m816.E6 o81A m81B.E6 o824 m825.E6 o828 m829.E6 o82E m859.DC
   o85C m897.E6 m899.DC m89C.E6 o8A0 m8CA.E6 m8CF.DC m8D4.E6 o8E2 m8E3.DC m8E4.E6 m8E6.DC m8E7.E6
   m8E9.DC m8EA.E6 m8ED.DC m8F0.1B m8F1.1C m8F2.1D m8F3.E6 m8F6.DC m8F7.E6 m8F9.DC m8FB.E6 m900.0
   o904 m93A.0 m93C.7 o93D m93E.0 m94D.9 m94E.0 o950 m951.E6 m952.DC m953.E6 m955.0 o958 m962.0
   o964 m981.0 o984 m9BC.7 o9BD m9BE.0 o9C5 m9C7.0 o9C9 m9CB.0 m9CD.9 o9CE m9D7.0 o9D8 m9E2.0
   o9E4 m9FE.E6 o9FF mA01.0 oA04 mA3C.7 oA3D mA3E.0 oA43 mA47.0 oA49 mA4B.0 mA4D.9 oA4E mA51.0
   oA52 mA70.0 oA72 mA75.0 oA76 mA81.0 oA84 mABC.7 oABD mABE.0 oAC6 mAC7.0 oACA mACB.0 mACD.9
   oACE mAE2.0 oAE4 mAFA.0 oB00 mB01.0 oB04 mB3C.7 oB3D mB3E.0 oB45 mB47.0 oB49 mB4B.0 mB4D.9
   oB4E mB55.0 oB58 mB62.0 oB64 mB82.0 oB83 mBBE.0 oBC3 mBC6.0 oBC9 mBCA.0 mBCD.9 oBCE mBD7.0
   oBD8 mC00.0 oC05 mC3C.7 oC3D mC3E.0 oC45 mC46.0 oC49 mC4A.0 mC4D.9 oC4E mC55.54 mC56.5B oC57
   mC62.0 oC64 mC81.0 oC84 mCBC.7 oCBD mCBE.0 oCC5 mCC6.0 oCC9 mCCA.0 mCCD.9 oCCE mCD5.0 oCD7
   mCE2.0 oCE4 mCF3.0 oCF4 mD00.0 oD04 mD3B.9 oD3D mD3E.0 oD45 mD46.0 oD49 mD4A.0 mD4D.9 oD4E
   mD57.0 oD58 mD62.0 oD64 mD81.0 oD84 mDCA.9 oDCB mDCF.0 oDD5 mDD6.0 oDD7 mDD8.0 oDE0 mDF2.0
   oDF4 mE31.0 oE32 mE34.0 mE38.67 mE3A.9 oE3B mE47.0 mE48.6B mE4C.0 oE4F mEB1.0 oEB2 mEB4.0
   mEB8.76 mEBA.9 mEBB.0 oEBD mEC8.7A mECC.0 oECF mF18.DC oF1A mF35.DC oF36 mF37.DC oF38 mF39.D8
   oF3A mF3E.0 oF40 mF71.81 mF72.82 mF73.0 mF74.84 mF75.0 mF7A.82 mF7E.0 mF80.82 mF81.0 mF82.E6
   mF84.9 oF85 mF86.E6 oF88 mF8D.0 oF98 mF99.0 oFBD mFC6.DC oFC7 m102B.0 m1037.7 m1038.0 m1039.9
   m103B.0 o103F m1056.0 o105A m105E.0 o1061 m1062.0 o1065 m1067.0 o106E m1071.0 o1075 m1082.0
   m108D.DC o108E m108F.0 o1090 m109A.0 o109E m135D.E6 o1360 m1712.0 m1714.9 o1716 m1732.0
   m1734.9 o1735 m1752.0 o1754 m1772.0 o1774 m17B4.0 m17D2.9 m17D3.0 o17D4 m17DD.E6 o17DE m180B.0
   o180E m180F.0 o1810 m1885.0 o1887 m18A9.E4 o18AA m1920.0 o192C m1930.0 m1939.DE m193A.E6
   m193B.DC o193C m1A17.E6 m1A18.DC m1A19.0 o1A1C m1A55.0 o1A5F m1A60.9 m1A61.0 m1A75.E6 o1A7D
   m1A7F.DC o1A80 m1AB0.E6 m1AB5.DC m1ABB.E6 m1ABD.DC m1ABE.0 m1ABF.DC m1AC1.E6 m1AC3.DC m1AC5.E6
   m1ACA.DC m1ACB.E6 m1ADD.DC o1ADE m1AE0.E6 m1AE6.DC m1AE7.E6 m1AEB.EA o1AEC m1B00.0 o1B05
   m1B34.7 m1B35.0 m1B44.9 o1B45 m1B6B.E6 m1B6C.DC m1B6D.E6 o1B74 m1B80.0 o1B83 m1BA1.0 m1BAA.9
   m1BAC.0 o1BAE m1BE6.7 m1BE7.0 m1BF2.9 o1BF4 m1C24.0 m1C37.7 o1C38 m1CD0.E6 o1CD3 m1CD4.1
   m1CD5.DC m1CDA.E6 m1CDC.DC m1CE0.E6 m1CE1.0 m1CE2.1 o1CE9 m1CED.DC o1CEE m1CF4.E6 o1CF5
   m1CF7.0 m1CF8.E6 o1CFA m1DC0.E6 m1DC2.DC m1DC3.E6 m1DCA.DC m1DCB.E6 m1DCD.EA m1DCE.D6 m1DCF.DC
   m1DD0.CA m1DD1.E6 m1DF6.E8 m1DF7.E4 m1DF9.DC m1DFA.DA m1DFB.E6 m1DFC.E9 m1DFD.DC m1DFE.E6
   m1DFF.DC o1E00 m20D0.E6 m20D2.1 m20D4.E6 m20D8.1 m20DB.E6 m20DD.0 m20E1.E6 m20E2.0 m20E5.1
   m20E7.E6 m20E8.DC m20E9.E6 m20EA.1 m20EC.DC m20F0.E6 o20F1 m2CEF.E6 o2CF2 m2D7F.9 o2D80
   m2DE0.E6 o2E00 m302A.DA m302B.E4 m302C.E8 m302D.DE m302E.E0 o3030 m3099.8 o309B mA66F.E6
   mA670.0 oA673 mA674.E6 oA67E mA69E.E6 oA6A0 mA6F0.E6 oA6F2 mA802.0 oA803 mA806.9 oA807 mA80B.0
   oA80C mA823.0 oA828 mA82C.9 oA82D mA880.0 oA882 mA8B4.0 mA8C4.9 mA8C5.0 oA8C6 mA8E0.E6 oA8F2
   mA8FF.0 oA900 mA926.0 mA92B.DC oA92E mA947.0 mA953.9 oA954 mA980.0 oA984 mA9B3.7 mA9B4.0
   mA9C0.9 oA9C1 mA9E5.0 oA9E6 mAA29.0 oAA37 mAA43.0 oAA44 mAA4C.0 oAA4E mAA7B.0 oAA7E mAAB0.E6
   oAAB1 mAAB2.E6 mAAB4.DC oAAB5 mAAB7.E6 oAAB9 mAABE.E6 oAAC0 mAAC1.E6 oAAC2 mAAEB.0 oAAF0
   mAAF5.0 mAAF6.9 oAAF7 mABE3.0 oABEB mABEC.0 mABED.9 oABEE mFB1E.1A oFB1F mFE00.0 oFE10
   mFE20.E6 mFE27.DC mFE2E.E6 oFE30 m101FD.DC o101FE m102E0.DC o102E1 m10376.E6 o1037B m10A01.0
   o10A04 m10A05.0 o10A07 m10A0C.0 m10A0D.DC m10A0E.0 m10A0F.E6 o10A10 m10A38.E6 m10A39.1
   m10A3A.DC o10A3B m10A3F.9 o10A40 m10AE5.E6 m10AE6.DC o10AE7 m10D24.E6 o10D28 m10D69.E6 o10D6E
   m10EAB.E6 o10EAD m10EFA.DC m10EFC.0 m10EFD.DC o10F00 m10F46.DC m10F48.E6 m10F4B.DC m10F4C.E6
   m10F4D.DC o10F51 m10F82.E6 m10F83.DC m10F84.E6 m10F85.DC o10F86 m11000.0 o11003 m11038.0
   m11046.9 o11047 m11070.9 o11071 m11073.0 o11075 m1107F.9 m11080.0 o11083 m110B0.0 m110B9.9
   m110BA.7 o110BB m110C2.0 o110C3 m11100.E6 o11103 m11127.0 m11133.9 o11135 m11145.0 o11147
   m11173.7 o11174 m11180.0 o11183 m111B3.0 m111C0.9 o111C1 m111C9.0 m111CA.7 m111CB.0 o111CD
   m111CE.0 o111D0 m1122C.0 m11235.9 m11236.7 m11237.0 o11238 m1123E.0 o1123F m11241.0 o11242
   m112DF.0 m112E9.7 m112EA.9 o112EB m11300.0 o11304 m1133B.7 o1133D m1133E.0 o11345 m11347.0
   o11349 m1134B.0 m1134D.9 o1134E m11357.0 o11358 m11362.0 o11364 m11366.E6 o1136D m11370.E6
   o11375 m113B8.0 o113C1 m113C2.0 o113C3 m113C5.0 o113C6 m113C7.0 o113CB m113CC.0 m113CE.9
   o113D1 m113D2.0 o113D3 m113E1.0 o113E3 m11435.0 m11442.9 m11443.0 m11446.7 o11447 m1145E.E6
   o1145F m114B0.0 m114C2.9 m114C3.7 o114C4 m115AF.0 o115B6 m115B8.0 m115BF.9 m115C0.7 o115C1
   m115DC.0 o115DE m11630.0 m1163F.9 m11640.0 o11641 m116AB.0 m116B6.9 m116B7.7 o116B8 m1171D.0
   m1172B.9 o1172C m1182C.0 m11839.9 m1183A.7 o1183B m11930.0 o11936 m11937.0 o11939 m1193B.0
   m1193D.9 o1193F m11940.0 o11941 m11942.0 m11943.7 o11944 m119D1.0 o119D8 m119DA.0 m119E0.9
   o119E1 m119E4.0 o119E5 m11A01.0 o11A0B m11A33.0 m11A34.9 m11A35.0 o11A3A m11A3B.0 o11A3F
   m11A47.9 o11A48 m11A51.0 o11A5C m11A8A.0 m11A99.9 o11A9A m11B60.0 o11B68 m11C2F.0 o11C37
   m11C38.0 m11C3F.9 o11C40 m11C92.0 o11CA8 m11CA9.0 o11CB7 m11D31.0 o11D37 m11D3A.0 o11D3B
   m11D3C.0 o11D3E m11D3F.0 m11D42.7 m11D43.0 m11D44.9 o11D46 m11D47.0 o11D48 m11D8A.0 o11D8F
   m11D90.0 o11D92 m11D93.0 m11D97.9 o11D98 m11EF3.0 o11EF7 m11F00.0 o11F02 m11F03.0 o11F04
   m11F34.0 o11F3B m11F3E.0 m11F41.9 o11F43 m11F5A.0 o11F5B m13440.0 o13441 m13447.0 o13456
   m1611E.0 m1612F.9 o16130 m16AF0.1 o16AF5 m16B30.E6 o16B37 m16F4F.0 o16F50 m16F51.0 o16F88
   m16F8F.0 o16F93 m16FE4.0 o16FE5 m16FF0.6 o16FF2 m1BC9D.0 m1BC9E.1 o1BC9F m1CF00.0 o1CF2E
   m1CF30.0 o1CF47 m1D165.D8 m1D167.1 o1D16A m1D16D.E2 m1D16E.D8 o1D173 m1D17B.DC o1D183
   m1D185.E6 m1D18A.DC o1D18C m1D1AA.E6 o1D1AE m1D242.E6 o1D245 m1DA00.0 o1DA37 m1DA3B.0 o1DA6D
   m1DA75.0 o1DA76 m1DA84.0 o1DA85 m1DA9B.0 o1DAA0 m1DAA1.0 o1DAB0 m1E000.E6 o1E007 m1E008.E6
   o1E019 m1E01B.E6 o1E022 m1E023.E6 o1E025 m1E026.E6 o1E02B m1E08F.E6 o1E090 m1E130.E6 o1E137
   m1E2AE.E6 o1E2AF m1E2EC.E6 o1E2F0 m1E4EC.E8 m1E4EE.DC m1E4EF.E6 o1E4F0 m1E5EE.E6 m1E5EF.DC
   o1E5F0 m1E6E3.E6 o1E6E4 m1E6E6.E6 o1E6E7 m1E6EE.E6 o1E6F0 m1E6F5.E6 o1E6F6 m1E8D0.DC o1E8D7
   m1E944.E6 m1E94A.7 o1E94B mE0100.0 oE01F0"

def markTable : RunTable := .ofText markText

/-- The combining class of a mark; none for a character that is no mark. -/
def markClass? (c : Char) : Option Nat :=
  match markTable.find? c with
  | some run => if run.letter = 'm' then run.numbers[0]? else none
  | none => none

def isMark (c : Char) : Bool := (markClass? c).isSome

/-- The combining class of a character. -/
def combiningClass (c : Char) : Nat := (markClass? c).getD 0

/-- The class of the marks that take the vowel from a letter. -/
def viramaClass : Nat := 9

end RemoteDrive.Text
