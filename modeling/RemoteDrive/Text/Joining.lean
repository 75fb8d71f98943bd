import RemoteDrive.Text.RunTable

/-!
# Letters that join

In some scripts a letter takes another form where it is joined to its neighbour in the word. The
neighbour before it is on its right and the one behind it on its left, since these scripts are
written from right to left. A mark in between does not come between them.
-/

set_option autoImplicit false

namespace RemoteDrive.Text

/-- How a character joins its neighbours. -/
inductive Joining where
  | never
  /-- The one before it. -/
  | right
  /-- The one behind it. -/
  | left
  | both
  /-- As if it were not there. -/
  | transparent
deriving DecidableEq

/-- The joining that a letter of the table means. -/
def Joining.ofLetter : Char → Joining
  | 'r' => right
  | 'l' => left
  | 'd' => both
  | 't' => transparent
  | _ => never

/-- The runs of one way of joining, by the letter of `Joining.ofLetter`. -/
def joiningText : String :=
  "u0 tAD uAE t300 u370 t483 u48A t591 u5BE t5BF u5C0 t5C1 u5C3 t5C4 u5C6 t5C7 u5C8 t610 u61B
   t61C u61D d620 u621 r622 d626 r627 d628 r629 d62A r62F d633 u640 d641 r648 d649 t64B u660 d66E
   t670 r671 u674 r675 d678 r688 d69A r6C0 d6C1 r6C3 d6CC r6CD d6CE r6CF d6D0 r6D2 u6D4 r6D5 t6D6
   u6DD t6DF u6E5 t6E7 u6E9 t6EA r6EE u6F0 d6FA u6FD d6FF u700 t70F r710 t711 d712 r715 d71A r71E
   d71F r728 d729 r72A d72B r72C d72D r72F t730 u74B r74D d74E r759 d75C r76B d76D r771 d772 r773
   d775 r778 d77A u780 t7A6 u7B1 d7CA t7EB u7F4 t7FD u7FE t816 u81A t81B u824 t825 u828 t829 u82E
   r840 d841 r846 d848 r849 d84A r854 d855 r856 t859 u85C d860 u861 d862 u866 r867 d868 r869 u86B
   r870 u883 d886 u887 d889 r88E d88F u890 t897 d8A0 r8AA u8AD r8AE d8AF r8B1 d8B3 r8B9 d8BA u8C9
   t8CA u8E2 t8E3 u903 t93A u93B t93C u93D t941 u949 t94D u94E t951 u958 t962 u964 t981 u982 t9BC
   u9BD t9C1 u9C5 t9CD u9CE t9E2 u9E4 t9FE u9FF tA01 uA03 tA3C uA3D tA41 uA43 tA47 uA49 tA4B uA4E
   tA51 uA52 tA70 uA72 tA75 uA76 tA81 uA83 tABC uABD tAC1 uAC6 tAC7 uAC9 tACD uACE tAE2 uAE4 tAFA
   uB00 tB01 uB02 tB3C uB3D tB3F uB40 tB41 uB45 tB4D uB4E tB55 uB57 tB62 uB64 tB82 uB83 tBC0 uBC1
   tBCD uBCE tC00 uC01 tC04 uC05 tC3C uC3D tC3E uC41 tC46 uC49 tC4A uC4E tC55 uC57 tC62 uC64 tC81
   uC82 tCBC uCBD tCBF uCC0 tCC6 uCC7 tCCC uCCE tCE2 uCE4 tD00 uD02 tD3B uD3D tD41 uD45 tD4D uD4E
   tD62 uD64 tD81 uD82 tDCA uDCB tDD2 uDD5 tDD6 uDD7 tE31 uE32 tE34 uE3B tE47 uE4F tEB1 uEB2 tEB4
   uEBD tEC8 uECF tF18 uF1A tF35 uF36 tF37 uF38 tF39 uF3A tF71 uF7F tF80 uF85 tF86 uF88 tF8D uF98
   tF99 uFBD tFC6 uFC7 t102D u1031 t1032 u1038 t1039 u103B t103D u103F t1058 u105A t105E u1061
   t1071 u1075 t1082 u1083 t1085 u1087 t108D u108E t109D u109E t135D u1360 t1712 u1715 t1732
   u1734 t1752 u1754 t1772 u1774 t17B4 u17B6 t17B7 u17BE t17C6 u17C7 t17C9 u17D4 t17DD u17DE
   d1807 u1808 t180B u180E t180F u1810 d1820 u1879 t1885 d1887 t18A9 d18AA u18AB t1920 u1923
   t1927 u1929 t1932 u1933 t1939 u193C t1A17 u1A19 t1A1B u1A1C t1A56 u1A57 t1A58 u1A5F t1A60
   u1A61 t1A62 u1A63 t1A65 u1A6D t1A73 u1A7D t1A7F u1A80 t1AB0 u1ADE t1AE0 u1AEC t1B00 u1B04
   t1B34 u1B35 t1B36 u1B3B t1B3C u1B3D t1B42 u1B43 t1B6B u1B74 t1B80 u1B82 t1BA2 u1BA6 t1BA8
   u1BAA t1BAB u1BAE t1BE6 u1BE7 t1BE8 u1BEA t1BED u1BEE t1BEF u1BF2 t1C2C u1C34 t1C36 u1C38
   t1CD0 u1CD3 t1CD4 u1CE1 t1CE2 u1CE9 t1CED u1CEE t1CF4 u1CF5 t1CF8 u1CFA t1DC0 u1E00 t200B
   u200C t200E u2010 t202A u202F t2060 u2065 t206A u2070 t20D0 u20F1 t2CEF u2CF2 t2D7F u2D80
   t2DE0 u2E00 t302A u302E t3099 u309B tA66F uA673 tA674 uA67E tA69E uA6A0 tA6F0 uA6F2 tA802
   uA803 tA806 uA807 tA80B uA80C tA825 uA827 tA82C uA82D dA840 lA872 uA873 tA8C4 uA8C6 tA8E0
   uA8F2 tA8FF uA900 tA926 uA92E tA947 uA952 tA980 uA983 tA9B3 uA9B4 tA9B6 uA9BA tA9BC uA9BE
   tA9E5 uA9E6 tAA29 uAA2F tAA31 uAA33 tAA35 uAA37 tAA43 uAA44 tAA4C uAA4D tAA7C uAA7D tAAB0
   uAAB1 tAAB2 uAAB5 tAAB7 uAAB9 tAABE uAAC0 tAAC1 uAAC2 tAAEC uAAEE tAAF6 uAAF7 tABE5 uABE6
   tABE8 uABE9 tABED uABEE tFB1E uFB1F tFE00 uFE10 tFE20 uFE30 tFEFF uFF00 tFFF9 uFFFC t101FD
   u101FE t102E0 u102E1 t10376 u1037B t10A01 u10A04 t10A05 u10A07 t10A0C u10A10 t10A38 u10A3B
   t10A3F u10A40 d10AC0 r10AC5 u10AC6 r10AC7 u10AC8 r10AC9 u10ACB l10ACD r10ACE d10AD3 l10AD7
   d10AD8 r10ADD d10ADE r10AE1 u10AE2 r10AE4 t10AE5 u10AE7 d10AEB r10AEF u10AF0 d10B80 r10B81
   d10B82 r10B83 d10B86 r10B89 d10B8A r10B8C d10B8D r10B8E d10B90 r10B91 u10B92 r10BA9 d10BAD
   u10BAF l10D00 d10D01 r10D22 d10D23 t10D24 u10D28 t10D69 u10D6E t10EAB u10EAD r10EC2 d10EC3
   u10EC5 d10EC6 u10EC8 t10EFA u10F00 d10F30 r10F33 d10F34 u10F45 t10F46 d10F51 r10F54 u10F55
   d10F70 r10F74 d10F76 t10F82 u10F86 d10FB0 u10FB1 d10FB2 r10FB4 u10FB7 d10FB8 r10FB9 d10FBB
   r10FBD d10FBE u10FC0 d10FC1 r10FC2 d10FC4 u10FC5 r10FC9 d10FCA l10FCB u10FCC t11001 u11002
   t11038 u11047 t11070 u11071 t11073 u11075 t1107F u11082 t110B3 u110B7 t110B9 u110BB t110C2
   u110C3 t11100 u11103 t11127 u1112C t1112D u11135 t11173 u11174 t11180 u11182 t111B6 u111BF
   t111C9 u111CD t111CF u111D0 t1122F u11232 t11234 u11235 t11236 u11238 t1123E u1123F t11241
   u11242 t112DF u112E0 t112E3 u112EB t11300 u11302 t1133B u1133D t11340 u11341 t11366 u1136D
   t11370 u11375 t113BB u113C1 t113CE u113CF t113D0 u113D1 t113D2 u113D3 t113E1 u113E3 t11438
   u11440 t11442 u11445 t11446 u11447 t1145E u1145F t114B3 u114B9 t114BA u114BB t114BF u114C1
   t114C2 u114C4 t115B2 u115B6 t115BC u115BE t115BF u115C1 t115DC u115DE t11633 u1163B t1163D
   u1163E t1163F u11641 t116AB u116AC t116AD u116AE t116B0 u116B6 t116B7 u116B8 t1171D u1171E
   t1171F u11720 t11722 u11726 t11727 u1172C t1182F u11838 t11839 u1183B t1193B u1193D t1193E
   u1193F t11943 u11944 t119D4 u119D8 t119DA u119DC t119E0 u119E1 t11A01 u11A0B t11A33 u11A39
   t11A3B u11A3F t11A47 u11A48 t11A51 u11A57 t11A59 u11A5C t11A8A u11A97 t11A98 u11A9A t11B60
   u11B61 t11B62 u11B65 t11B66 u11B67 t11C30 u11C37 t11C38 u11C3E t11C3F u11C40 t11C92 u11CA8
   t11CAA u11CB1 t11CB2 u11CB4 t11CB5 u11CB7 t11D31 u11D37 t11D3A u11D3B t11D3C u11D3E t11D3F
   u11D46 t11D47 u11D48 t11D90 u11D92 t11D95 u11D96 t11D97 u11D98 t11EF3 u11EF5 t11F00 u11F02
   t11F36 u11F3B t11F40 u11F41 t11F42 u11F43 t11F5A u11F5B t13430 u13441 t13447 u13456 t1611E
   u1612A t1612D u16130 t16AF0 u16AF5 t16B30 u16B37 t16F4F u16F50 t16F8F u16F93 t16FE4 u16FE5
   t1BC9D u1BC9F t1BCA0 u1BCA4 t1CF00 u1CF2E t1CF30 u1CF47 t1D167 u1D16A t1D173 u1D183 t1D185
   u1D18C t1D1AA u1D1AE t1D242 u1D245 t1DA00 u1DA37 t1DA3B u1DA6D t1DA75 u1DA76 t1DA84 u1DA85
   t1DA9B u1DAA0 t1DAA1 u1DAB0 t1E000 u1E007 t1E008 u1E019 t1E01B u1E022 t1E023 u1E025 t1E026
   u1E02B t1E08F u1E090 t1E130 u1E137 t1E2AE u1E2AF t1E2EC u1E2F0 t1E4EC u1E4F0 t1E5EE u1E5F0
   t1E6E3 u1E6E4 t1E6E6 u1E6E7 t1E6EE u1E6F0 t1E6F5 u1E6F6 t1E8D0 u1E8D7 d1E900 t1E944 u1E94C
   tE0001 uE0002 tE0020 uE0080 tE0100 uE01F0"

def joiningTable : RunTable := .ofText joiningText

/-- The joining of a character. -/
def Joining.of (c : Char) : Joining :=
  (joiningTable.find? c).elim never fun run => ofLetter run.letter

end RemoteDrive.Text
