import BrokerClient.Unicode.RunTable

/-!
# Canonical Composition

Normalization form C: canonical decomposition, canonical order of combining
marks, and composition of what can be composed. Hangul syllables are composed
by arithmetic, all other characters by table.

## Main definitions

* `Unicode.combiningClass`: The canonical combining class.
* `Unicode.decompose`: The full canonical decomposition of a text.
* `Unicode.compose`: Composition of a decomposed text.
* `Unicode.normalize`: Normalization form C.
-/

namespace BrokerClient

namespace Unicode

/-- One step of canonical decomposition: `n` none, `s` to one character, `c`
    to two characters that compose again, `e` to two that do not. -/
def decompositions : RunTable := RunTable.ofText
  "n192 c1:65:768 c1:65:769 c1:65:770 c1:65:771 c1:65:776 c1:65:778 n1 c1:67:807 c1:69:768
    c1:69:769 c1:69:770 c1:69:776 c1:73:768 c1:73:769 c1:73:770 c1:73:776 n1 c1:78:771 c1:79:768
    c1:79:769 c1:79:770 c1:79:771 c1:79:776 n2 c1:85:768 c1:85:769 c1:85:770 c1:85:776 c1:89:769
    n2 c1:97:768 c1:97:769 c1:97:770 c1:97:771 c1:97:776 c1:97:778 n1 c1:99:807 c1:101:768
    c1:101:769 c1:101:770 c1:101:776 c1:105:768 c1:105:769 c1:105:770 c1:105:776 n1 c1:110:771
    c1:111:768 c1:111:769 c1:111:770 c1:111:771 c1:111:776 n2 c1:117:768 c1:117:769 c1:117:770
    c1:117:776 c1:121:769 n1 c1:121:776 c1:65:772 c1:97:772 c1:65:774 c1:97:774 c1:65:808
    c1:97:808 c1:67:769 c1:99:769 c1:67:770 c1:99:770 c1:67:775 c1:99:775 c1:67:780 c1:99:780
    c1:68:780 c1:100:780 n2 c1:69:772 c1:101:772 c1:69:774 c1:101:774 c1:69:775 c1:101:775
    c1:69:808 c1:101:808 c1:69:780 c1:101:780 c1:71:770 c1:103:770 c1:71:774 c1:103:774
    c1:71:775 c1:103:775 c1:71:807 c1:103:807 c1:72:770 c1:104:770 n2 c1:73:771 c1:105:771
    c1:73:772 c1:105:772 c1:73:774 c1:105:774 c1:73:808 c1:105:808 c1:73:775 n3 c1:74:770
    c1:106:770 c1:75:807 c1:107:807 n1 c1:76:769 c1:108:769 c1:76:807 c1:108:807 c1:76:780
    c1:108:780 n4 c1:78:769 c1:110:769 c1:78:807 c1:110:807 c1:78:780 c1:110:780 n3 c1:79:772
    c1:111:772 c1:79:774 c1:111:774 c1:79:779 c1:111:779 n2 c1:82:769 c1:114:769 c1:82:807
    c1:114:807 c1:82:780 c1:114:780 c1:83:769 c1:115:769 c1:83:770 c1:115:770 c1:83:807
    c1:115:807 c1:83:780 c1:115:780 c1:84:807 c1:116:807 c1:84:780 c1:116:780 n2 c1:85:771
    c1:117:771 c1:85:772 c1:117:772 c1:85:774 c1:117:774 c1:85:778 c1:117:778 c1:85:779
    c1:117:779 c1:85:808 c1:117:808 c1:87:770 c1:119:770 c1:89:770 c1:121:770 c1:89:776
    c1:90:769 c1:122:769 c1:90:775 c1:122:775 c1:90:780 c1:122:780 n33 c1:79:795 c1:111:795 n13
    c1:85:795 c1:117:795 n28 c1:65:780 c1:97:780 c1:73:780 c1:105:780 c1:79:780 c1:111:780
    c1:85:780 c1:117:780 c1:220:772 c1:252:772 c1:220:769 c1:252:769 c1:220:780 c1:252:780
    c1:220:768 c1:252:768 n1 c1:196:772 c1:228:772 c1:550:772 c1:551:772 c1:198:772 c1:230:772
    n2 c1:71:780 c1:103:780 c1:75:780 c1:107:780 c1:79:808 c1:111:808 c1:490:772 c1:491:772
    c1:439:780 c1:658:780 c1:106:780 n3 c1:71:769 c1:103:769 n2 c1:78:768 c1:110:768 c1:197:769
    c1:229:769 c1:198:769 c1:230:769 c1:216:769 c1:248:769 c1:65:783 c1:97:783 c1:65:785
    c1:97:785 c1:69:783 c1:101:783 c1:69:785 c1:101:785 c1:73:783 c1:105:783 c1:73:785
    c1:105:785 c1:79:783 c1:111:783 c1:79:785 c1:111:785 c1:82:783 c1:114:783 c1:82:785
    c1:114:785 c1:85:783 c1:117:783 c1:85:785 c1:117:785 c1:83:806 c1:115:806 c1:84:806
    c1:116:806 n2 c1:72:780 c1:104:780 n6 c1:65:775 c1:97:775 c1:69:807 c1:101:807 c1:214:772
    c1:246:772 c1:213:772 c1:245:772 c1:79:775 c1:111:775 c1:558:772 c1:559:772 c1:89:772
    c1:121:772 n268 s1:768 s1:769 n1 s1:787 e1:776:769 n47 s1:697 n9 s1:59 n6 c1:168:769
    c1:913:769 s1:183 c1:917:769 c1:919:769 c1:921:769 n1 c1:927:769 n1 c1:933:769 c1:937:769
    c1:970:769 n25 c1:921:776 c1:933:776 c1:945:769 c1:949:769 c1:951:769 c1:953:769 c1:971:769
    n25 c1:953:776 c1:965:776 c1:959:769 c1:965:769 c1:969:769 n4 c1:978:769 c1:978:776 n43
    c1:1045:768 c1:1045:776 n1 c1:1043:769 n3 c1:1030:776 n4 c1:1050:769 c1:1048:768 c1:1059:774
    n10 c1:1048:774 n31 c1:1080:774 n22 c1:1077:768 c1:1077:776 n1 c1:1075:769 n3 c1:1110:776 n4
    c1:1082:769 c1:1080:768 c1:1091:774 n23 c1:1140:783 c1:1141:783 n73 c1:1046:774 c1:1078:774
    n13 c1:1040:774 c1:1072:774 c1:1040:776 c1:1072:776 n2 c1:1045:774 c1:1077:774 n2
    c1:1240:776 c1:1241:776 c1:1046:776 c1:1078:776 c1:1047:776 c1:1079:776 n2 c1:1048:772
    c1:1080:772 c1:1048:776 c1:1080:776 c1:1054:776 c1:1086:776 n2 c1:1256:776 c1:1257:776
    c1:1069:776 c1:1101:776 c1:1059:772 c1:1091:772 c1:1059:776 c1:1091:776 c1:1059:779
    c1:1091:779 c1:1063:776 c1:1095:776 n2 c1:1067:776 c1:1099:776 n296 c1:1575:1619
    c1:1575:1620 c1:1608:1620 c1:1575:1621 c1:1610:1620 n153 c1:1749:1620 n1 c1:1729:1620 n16
    c1:1746:1620 n597 c1:2344:2364 n7 c1:2352:2364 n2 c1:2355:2364 n35 e1:2325:2364 e1:2326:2364
    e1:2327:2364 e1:2332:2364 e1:2337:2364 e1:2338:2364 e1:2347:2364 e1:2351:2364 n107
    c1:2503:2494 c1:2503:2519 n15 e1:2465:2492 e1:2466:2492 n1 e1:2479:2492 n83 e1:2610:2620 n2
    e1:2616:2620 n34 e1:2582:2620 e1:2583:2620 e1:2588:2620 n2 e1:2603:2620 n233 c1:2887:2902 n2
    c1:2887:2878 c1:2887:2903 n15 e1:2849:2876 e1:2850:2876 n54 c1:2962:3031 n53 c1:3014:3006
    c1:3015:3006 c1:3014:3031 n123 c1:3142:3158 n119 c1:3263:3285 n6 c1:3270:3285 c1:3270:3286
    n1 c1:3270:3266 c1:3274:3285 n126 c1:3398:3390 c1:3399:3390 c1:3398:3415 n141 c1:3545:3530
    n1 c1:3545:3535 c1:3548:3530 c1:3545:3551 n356 e1:3906:4023 n9 e1:3916:4023 n4 e1:3921:4023
    n4 e1:3926:4023 n4 e1:3931:4023 n12 e1:3904:4021 n9 e1:3953:3954 n1 e1:3953:3956
    e1:4018:3968 n1 e1:4019:3968 n8 e1:3953:3968 n17 e1:3986:4023 n9 e1:3996:4023 n4
    e1:4001:4023 n4 e1:4006:4023 n4 e1:4011:4023 n12 e1:3984:4021 n108 c1:4133:4142 n2783
    c1:6917:6965 n1 c1:6919:6965 n1 c1:6921:6965 n1 c1:6923:6965 n1 c1:6925:6965 n3 c1:6929:6965
    n40 c1:6970:6965 n1 c1:6972:6965 n2 c1:6974:6965 c1:6975:6965 n1 c1:6978:6965 n700 c1:65:805
    c1:97:805 c1:66:775 c1:98:775 c1:66:803 c1:98:803 c1:66:817 c1:98:817 c1:199:769 c1:231:769
    c1:68:775 c1:100:775 c1:68:803 c1:100:803 c1:68:817 c1:100:817 c1:68:807 c1:100:807
    c1:68:813 c1:100:813 c1:274:768 c1:275:768 c1:274:769 c1:275:769 c1:69:813 c1:101:813
    c1:69:816 c1:101:816 c1:552:774 c1:553:774 c1:70:775 c1:102:775 c1:71:772 c1:103:772
    c1:72:775 c1:104:775 c1:72:803 c1:104:803 c1:72:776 c1:104:776 c1:72:807 c1:104:807
    c1:72:814 c1:104:814 c1:73:816 c1:105:816 c1:207:769 c1:239:769 c1:75:769 c1:107:769
    c1:75:803 c1:107:803 c1:75:817 c1:107:817 c1:76:803 c1:108:803 c1:7734:772 c1:7735:772
    c1:76:817 c1:108:817 c1:76:813 c1:108:813 c1:77:769 c1:109:769 c1:77:775 c1:109:775
    c1:77:803 c1:109:803 c1:78:775 c1:110:775 c1:78:803 c1:110:803 c1:78:817 c1:110:817
    c1:78:813 c1:110:813 c1:213:769 c1:245:769 c1:213:776 c1:245:776 c1:332:768 c1:333:768
    c1:332:769 c1:333:769 c1:80:769 c1:112:769 c1:80:775 c1:112:775 c1:82:775 c1:114:775
    c1:82:803 c1:114:803 c1:7770:772 c1:7771:772 c1:82:817 c1:114:817 c1:83:775 c1:115:775
    c1:83:803 c1:115:803 c1:346:775 c1:347:775 c1:352:775 c1:353:775 c1:7778:775 c1:7779:775
    c1:84:775 c1:116:775 c1:84:803 c1:116:803 c1:84:817 c1:116:817 c1:84:813 c1:116:813
    c1:85:804 c1:117:804 c1:85:816 c1:117:816 c1:85:813 c1:117:813 c1:360:769 c1:361:769
    c1:362:776 c1:363:776 c1:86:771 c1:118:771 c1:86:803 c1:118:803 c1:87:768 c1:119:768
    c1:87:769 c1:119:769 c1:87:776 c1:119:776 c1:87:775 c1:119:775 c1:87:803 c1:119:803
    c1:88:775 c1:120:775 c1:88:776 c1:120:776 c1:89:775 c1:121:775 c1:90:770 c1:122:770
    c1:90:803 c1:122:803 c1:90:817 c1:122:817 c1:104:817 c1:116:776 c1:119:778 c1:121:778 n1
    c1:383:775 n4 c1:65:803 c1:97:803 c1:65:777 c1:97:777 c1:194:769 c1:226:769 c1:194:768
    c1:226:768 c1:194:777 c1:226:777 c1:194:771 c1:226:771 c1:7840:770 c1:7841:770 c1:258:769
    c1:259:769 c1:258:768 c1:259:768 c1:258:777 c1:259:777 c1:258:771 c1:259:771 c1:7840:774
    c1:7841:774 c1:69:803 c1:101:803 c1:69:777 c1:101:777 c1:69:771 c1:101:771 c1:202:769
    c1:234:769 c1:202:768 c1:234:768 c1:202:777 c1:234:777 c1:202:771 c1:234:771 c1:7864:770
    c1:7865:770 c1:73:777 c1:105:777 c1:73:803 c1:105:803 c1:79:803 c1:111:803 c1:79:777
    c1:111:777 c1:212:769 c1:244:769 c1:212:768 c1:244:768 c1:212:777 c1:244:777 c1:212:771
    c1:244:771 c1:7884:770 c1:7885:770 c1:416:769 c1:417:769 c1:416:768 c1:417:768 c1:416:777
    c1:417:777 c1:416:771 c1:417:771 c1:416:803 c1:417:803 c1:85:803 c1:117:803 c1:85:777
    c1:117:777 c1:431:769 c1:432:769 c1:431:768 c1:432:768 c1:431:777 c1:432:777 c1:431:771
    c1:432:771 c1:431:803 c1:432:803 c1:89:768 c1:121:768 c1:89:803 c1:121:803 c1:89:777
    c1:121:777 c1:89:771 c1:121:771 n6 c1:945:787 c1:945:788 c1:7936:768 c1:7937:768 c1:7936:769
    c1:7937:769 c1:7936:834 c1:7937:834 c1:913:787 c1:913:788 c1:7944:768 c1:7945:768
    c1:7944:769 c1:7945:769 c1:7944:834 c1:7945:834 c1:949:787 c1:949:788 c1:7952:768
    c1:7953:768 c1:7952:769 c1:7953:769 n2 c1:917:787 c1:917:788 c1:7960:768 c1:7961:768
    c1:7960:769 c1:7961:769 n2 c1:951:787 c1:951:788 c1:7968:768 c1:7969:768 c1:7968:769
    c1:7969:769 c1:7968:834 c1:7969:834 c1:919:787 c1:919:788 c1:7976:768 c1:7977:768
    c1:7976:769 c1:7977:769 c1:7976:834 c1:7977:834 c1:953:787 c1:953:788 c1:7984:768
    c1:7985:768 c1:7984:769 c1:7985:769 c1:7984:834 c1:7985:834 c1:921:787 c1:921:788
    c1:7992:768 c1:7993:768 c1:7992:769 c1:7993:769 c1:7992:834 c1:7993:834 c1:959:787
    c1:959:788 c1:8000:768 c1:8001:768 c1:8000:769 c1:8001:769 n2 c1:927:787 c1:927:788
    c1:8008:768 c1:8009:768 c1:8008:769 c1:8009:769 n2 c1:965:787 c1:965:788 c1:8016:768
    c1:8017:768 c1:8016:769 c1:8017:769 c1:8016:834 c1:8017:834 n1 c1:933:788 n1 c1:8025:768 n1
    c1:8025:769 n1 c1:8025:834 c1:969:787 c1:969:788 c1:8032:768 c1:8033:768 c1:8032:769
    c1:8033:769 c1:8032:834 c1:8033:834 c1:937:787 c1:937:788 c1:8040:768 c1:8041:768
    c1:8040:769 c1:8041:769 c1:8040:834 c1:8041:834 c1:945:768 s1:940 c1:949:768 s1:941
    c1:951:768 s1:942 c1:953:768 s1:943 c1:959:768 s1:972 c1:965:768 s1:973 c1:969:768 s1:974 n2
    c1:7936:837 c1:7937:837 c1:7938:837 c1:7939:837 c1:7940:837 c1:7941:837 c1:7942:837
    c1:7943:837 c1:7944:837 c1:7945:837 c1:7946:837 c1:7947:837 c1:7948:837 c1:7949:837
    c1:7950:837 c1:7951:837 c1:7968:837 c1:7969:837 c1:7970:837 c1:7971:837 c1:7972:837
    c1:7973:837 c1:7974:837 c1:7975:837 c1:7976:837 c1:7977:837 c1:7978:837 c1:7979:837
    c1:7980:837 c1:7981:837 c1:7982:837 c1:7983:837 c1:8032:837 c1:8033:837 c1:8034:837
    c1:8035:837 c1:8036:837 c1:8037:837 c1:8038:837 c1:8039:837 c1:8040:837 c1:8041:837
    c1:8042:837 c1:8043:837 c1:8044:837 c1:8045:837 c1:8046:837 c1:8047:837 c1:945:774
    c1:945:772 c1:8048:837 c1:945:837 c1:940:837 n1 c1:945:834 c1:8118:837 c1:913:774 c1:913:772
    c1:913:768 s1:902 c1:913:837 n1 s1:953 n2 c1:168:834 c1:8052:837 c1:951:837 c1:942:837 n1
    c1:951:834 c1:8134:837 c1:917:768 s1:904 c1:919:768 s1:905 c1:919:837 c1:8127:768
    c1:8127:769 c1:8127:834 c1:953:774 c1:953:772 c1:970:768 s1:912 n2 c1:953:834 c1:970:834
    c1:921:774 c1:921:772 c1:921:768 s1:906 n1 c1:8190:768 c1:8190:769 c1:8190:834 c1:965:774
    c1:965:772 c1:971:768 s1:944 c1:961:787 c1:961:788 c1:965:834 c1:971:834 c1:933:774
    c1:933:772 c1:933:768 s1:910 c1:929:788 c1:168:768 s1:901 s1:96 n2 c1:8060:837 c1:969:837
    c1:974:837 n1 c1:969:834 c1:8182:837 c1:927:768 s1:908 c1:937:768 s1:911 c1:937:837 s1:180
    n2 s1:8194 s1:8195 n292 s1:937 n3 s1:75 s1:197 n110 c1:8592:824 c1:8594:824 n18 c1:8596:824
    n30 c1:8656:824 c1:8660:824 c1:8658:824 n52 c1:8707:824 n4 c1:8712:824 n2 c1:8715:824 n23
    c1:8739:824 n1 c1:8741:824 n26 c1:8764:824 n2 c1:8771:824 n2 c1:8773:824 n1 c1:8776:824 n22
    c1:61:824 n1 c1:8801:824 n10 c1:8781:824 c1:60:824 c1:62:824 c1:8804:824 c1:8805:824 n2
    c1:8818:824 c1:8819:824 n2 c1:8822:824 c1:8823:824 n6 c1:8826:824 c1:8827:824 n2 c1:8834:824
    c1:8835:824 n2 c1:8838:824 c1:8839:824 n34 c1:8866:824 c1:8872:824 c1:8873:824 c1:8875:824
    n48 c1:8828:824 c1:8829:824 c1:8849:824 c1:8850:824 n6 c1:8882:824 c1:8883:824 c1:8884:824
    c1:8885:824 n59 s1:12296 s1:12297 n1969 e1:10973:824 n1391 c1:12363:12441 n1 c1:12365:12441
    n1 c1:12367:12441 n1 c1:12369:12441 n1 c1:12371:12441 n1 c1:12373:12441 n1 c1:12375:12441 n1
    c1:12377:12441 n1 c1:12379:12441 n1 c1:12381:12441 n1 c1:12383:12441 n1 c1:12385:12441 n2
    c1:12388:12441 n1 c1:12390:12441 n1 c1:12392:12441 n6 c1:12399:12441 c1:12399:12442 n1
    c1:12402:12441 c1:12402:12442 n1 c1:12405:12441 c1:12405:12442 n1 c1:12408:12441
    c1:12408:12442 n1 c1:12411:12441 c1:12411:12442 n22 c1:12358:12441 n9 c1:12445:12441 n13
    c1:12459:12441 n1 c1:12461:12441 n1 c1:12463:12441 n1 c1:12465:12441 n1 c1:12467:12441 n1
    c1:12469:12441 n1 c1:12471:12441 n1 c1:12473:12441 n1 c1:12475:12441 n1 c1:12477:12441 n1
    c1:12479:12441 n1 c1:12481:12441 n2 c1:12484:12441 n1 c1:12486:12441 n1 c1:12488:12441 n6
    c1:12495:12441 c1:12495:12442 n1 c1:12498:12441 c1:12498:12442 n1 c1:12501:12441
    c1:12501:12442 n1 c1:12504:12441 c1:12504:12442 n1 c1:12507:12441 c1:12507:12442 n22
    c1:12454:12441 n2 c1:12527:12441 c1:12528:12441 c1:12529:12441 c1:12530:12441 n3
    c1:12541:12441 n51201 s1:35912 s1:26356 s1:36554 s1:36040 s1:28369 s1:20018 s1:21477
    s1:40860 s1:40860 s1:22865 s1:37329 s1:21895 s1:22856 s1:25078 s1:30313 s1:32645 s1:34367
    s1:34746 s1:35064 s1:37007 s1:27138 s1:27931 s1:28889 s1:29662 s1:33853 s1:37226 s1:39409
    s1:20098 s1:21365 s1:27396 s1:29211 s1:34349 s1:40478 s1:23888 s1:28651 s1:34253 s1:35172
    s1:25289 s1:33240 s1:34847 s1:24266 s1:26391 s1:28010 s1:29436 s1:37070 s1:20358 s1:20919
    s1:21214 s1:25796 s1:27347 s1:29200 s1:30439 s1:32769 s1:34310 s1:34396 s1:36335 s1:38706
    s1:39791 s1:40442 s1:30860 s1:31103 s1:32160 s1:33737 s1:37636 s1:40575 s1:35542 s1:22751
    s1:24324 s1:31840 s1:32894 s1:29282 s1:30922 s1:36034 s1:38647 s1:22744 s1:23650 s1:27155
    s1:28122 s1:28431 s1:32047 s1:32311 s1:38475 s1:21202 s1:32907 s1:20956 s1:20940 s1:31260
    s1:32190 s1:33777 s1:38517 s1:35712 s1:25295 s1:27138 s1:35582 s1:20025 s1:23527 s1:24594
    s1:29575 s1:30064 s1:21271 s1:30971 s1:20415 s1:24489 s1:19981 s1:27852 s1:25976 s1:32034
    s1:21443 s1:22622 s1:30465 s1:33865 s1:35498 s1:27578 s1:36784 s1:27784 s1:25342 s1:33509
    s1:25504 s1:30053 s1:20142 s1:20841 s1:20937 s1:26753 s1:31975 s1:33391 s1:35538 s1:37327
    s1:21237 s1:21570 s1:22899 s1:24300 s1:26053 s1:28670 s1:31018 s1:38317 s1:39530 s1:40599
    s1:40654 s1:21147 s1:26310 s1:27511 s1:36706 s1:24180 s1:24976 s1:25088 s1:25754 s1:28451
    s1:29001 s1:29833 s1:31178 s1:32244 s1:32879 s1:36646 s1:34030 s1:36899 s1:37706 s1:21015
    s1:21155 s1:21693 s1:28872 s1:35010 s1:35498 s1:24265 s1:24565 s1:25467 s1:27566 s1:31806
    s1:29557 s1:20196 s1:22265 s1:23527 s1:23994 s1:24604 s1:29618 s1:29801 s1:32666 s1:32838
    s1:37428 s1:38646 s1:38728 s1:38936 s1:20363 s1:31150 s1:37300 s1:38584 s1:24801 s1:20102
    s1:20698 s1:23534 s1:23615 s1:26009 s1:27138 s1:29134 s1:30274 s1:34044 s1:36988 s1:40845
    s1:26248 s1:38446 s1:21129 s1:26491 s1:26611 s1:27969 s1:28316 s1:29705 s1:30041 s1:30827
    s1:32016 s1:39006 s1:20845 s1:25134 s1:38520 s1:20523 s1:23833 s1:28138 s1:36650 s1:24459
    s1:24900 s1:26647 s1:29575 s1:38534 s1:21033 s1:21519 s1:23653 s1:26131 s1:26446 s1:26792
    s1:27877 s1:29702 s1:30178 s1:32633 s1:35023 s1:35041 s1:37324 s1:38626 s1:21311 s1:28346
    s1:21533 s1:29136 s1:29848 s1:34298 s1:38563 s1:40023 s1:40607 s1:26519 s1:28107 s1:33256
    s1:31435 s1:31520 s1:31890 s1:29376 s1:28825 s1:35672 s1:20160 s1:33590 s1:21050 s1:20999
    s1:24230 s1:25299 s1:31958 s1:23429 s1:27934 s1:26292 s1:36667 s1:34892 s1:38477 s1:35211
    s1:24275 s1:20800 s1:21952 n2 s1:22618 n1 s1:26228 n2 s1:20958 s1:29482 s1:30410 s1:31036
    s1:31070 s1:31077 s1:31119 s1:38742 s1:31934 s1:32701 n1 s1:34322 n1 s1:35576 n2 s1:36920
    s1:37117 n3 s1:39151 s1:39164 s1:39208 s1:40372 s1:37086 s1:38583 s1:20398 s1:20711 s1:20813
    s1:21193 s1:21220 s1:21329 s1:21917 s1:22022 s1:22120 s1:22592 s1:22696 s1:23652 s1:23662
    s1:24724 s1:24936 s1:24974 s1:25074 s1:25935 s1:26082 s1:26257 s1:26757 s1:28023 s1:28186
    s1:28450 s1:29038 s1:29227 s1:29730 s1:30865 s1:31038 s1:31049 s1:31048 s1:31056 s1:31062
    s1:31069 s1:31117 s1:31118 s1:31296 s1:31361 s1:31680 s1:32244 s1:32265 s1:32321 s1:32626
    s1:32773 s1:33261 s1:33401 s1:33401 s1:33879 s1:35088 s1:35222 s1:35585 s1:35641 s1:36051
    s1:36104 s1:36790 s1:36920 s1:38627 s1:38911 s1:38971 s1:24693 s1:148206 s1:33304 n2
    s1:20006 s1:20917 s1:20840 s1:20352 s1:20805 s1:20864 s1:21191 s1:21242 s1:21917 s1:21845
    s1:21913 s1:21986 s1:22618 s1:22707 s1:22852 s1:22868 s1:23138 s1:23336 s1:24274 s1:24281
    s1:24425 s1:24493 s1:24792 s1:24910 s1:24840 s1:24974 s1:24928 s1:25074 s1:25140 s1:25540
    s1:25628 s1:25682 s1:25942 s1:26228 s1:26391 s1:26395 s1:26454 s1:27513 s1:27578 s1:27969
    s1:28379 s1:28363 s1:28450 s1:28702 s1:29038 s1:30631 s1:29237 s1:29359 s1:29482 s1:29809
    s1:29958 s1:30011 s1:30237 s1:30239 s1:30410 s1:30427 s1:30452 s1:30538 s1:30528 s1:30924
    s1:31409 s1:31680 s1:31867 s1:32091 s1:32244 s1:32574 s1:32773 s1:33618 s1:33775 s1:34681
    s1:35137 s1:35206 s1:35222 s1:35519 s1:35576 s1:35531 s1:35585 s1:35582 s1:35565 s1:35641
    s1:35722 s1:36104 s1:36664 s1:36978 s1:37273 s1:37494 s1:38524 s1:38627 s1:38742 s1:38875
    s1:38911 s1:38923 s1:38971 s1:39698 s1:40860 s1:141386 s1:141380 s1:144341 s1:15261 s1:16408
    s1:16441 s1:152137 s1:154832 s1:163539 s1:40771 s1:40846 n67 e1:1497:1460 n1 e1:1522:1463
    n10 e1:1513:1473 e1:1513:1474 e1:64329:1473 e1:64329:1474 e1:1488:1463 e1:1488:1464
    e1:1488:1468 e1:1489:1468 e1:1490:1468 e1:1491:1468 e1:1492:1468 e1:1493:1468 e1:1494:1468
    n1 e1:1496:1468 e1:1497:1468 e1:1498:1468 e1:1499:1468 e1:1500:1468 n1 e1:1502:1468 n1
    e1:1504:1468 e1:1505:1468 n1 e1:1507:1468 e1:1508:1468 n1 e1:1510:1468 e1:1511:1468
    e1:1512:1468 e1:1513:1468 e1:1514:1468 e1:1493:1465 e1:1489:1471 e1:1499:1471 e1:1508:1471
    n5451 c1:69785:69818 n1 c1:69787:69818 n14 c1:69797:69818 n130 c1:69937:69927 c1:69938:69927
    n539 c1:70471:70462 c1:70471:70487 n366 c1:70841:70842 c1:70841:70832 n1 c1:70841:70845 n251
    c1:71096:71087 c1:71097:71087 n892 c1:71989:71984 n47141 e1:119127:119141 e1:119128:119141
    e1:119135:119150 e1:119135:119151 e1:119135:119152 e1:119135:119153 e1:119135:119154 n86
    e1:119225:119141 e1:119226:119141 e1:119227:119150 e1:119228:119150 e1:119227:119151
    e1:119228:119151 n75327 s1:20029 s1:20024 s1:20033 s1:131362 s1:20320 s1:20398 s1:20411
    s1:20482 s1:20602 s1:20633 s1:20711 s1:20687 s1:13470 s1:132666 s1:20813 s1:20820 s1:20836
    s1:20855 s1:132380 s1:13497 s1:20839 s1:20877 s1:132427 s1:20887 s1:20900 s1:20172 s1:20908
    s1:20917 s1:168415 s1:20981 s1:20995 s1:13535 s1:21051 s1:21062 s1:21106 s1:21111 s1:13589
    s1:21191 s1:21193 s1:21220 s1:21242 s1:21253 s1:21254 s1:21271 s1:21321 s1:21329 s1:21338
    s1:21363 s1:21373 s1:21375 s1:21375 s1:21375 s1:133676 s1:28784 s1:21450 s1:21471 s1:133987
    s1:21483 s1:21489 s1:21510 s1:21662 s1:21560 s1:21576 s1:21608 s1:21666 s1:21750 s1:21776
    s1:21843 s1:21859 s1:21892 s1:21892 s1:21913 s1:21931 s1:21939 s1:21954 s1:22294 s1:22022
    s1:22295 s1:22097 s1:22132 s1:20999 s1:22766 s1:22478 s1:22516 s1:22541 s1:22411 s1:22578
    s1:22577 s1:22700 s1:136420 s1:22770 s1:22775 s1:22790 s1:22810 s1:22818 s1:22882 s1:136872
    s1:136938 s1:23020 s1:23067 s1:23079 s1:23000 s1:23142 s1:14062 s1:14076 s1:23304 s1:23358
    s1:23358 s1:137672 s1:23491 s1:23512 s1:23527 s1:23539 s1:138008 s1:23551 s1:23558 s1:24403
    s1:23586 s1:14209 s1:23648 s1:23662 s1:23744 s1:23693 s1:138724 s1:23875 s1:138726 s1:23918
    s1:23915 s1:23932 s1:24033 s1:24034 s1:14383 s1:24061 s1:24104 s1:24125 s1:24169 s1:14434
    s1:139651 s1:14460 s1:24240 s1:24243 s1:24246 s1:24266 s1:172946 s1:24318 s1:140081
    s1:140081 s1:33281 s1:24354 s1:24354 s1:14535 s1:144056 s1:156122 s1:24418 s1:24427 s1:14563
    s1:24474 s1:24525 s1:24535 s1:24569 s1:24705 s1:14650 s1:14620 s1:24724 s1:141012 s1:24775
    s1:24904 s1:24908 s1:24910 s1:24908 s1:24954 s1:24974 s1:25010 s1:24996 s1:25007 s1:25054
    s1:25074 s1:25078 s1:25104 s1:25115 s1:25181 s1:25265 s1:25300 s1:25424 s1:142092 s1:25405
    s1:25340 s1:25448 s1:25475 s1:25572 s1:142321 s1:25634 s1:25541 s1:25513 s1:14894 s1:25705
    s1:25726 s1:25757 s1:25719 s1:14956 s1:25935 s1:25964 s1:143370 s1:26083 s1:26360 s1:26185
    s1:15129 s1:26257 s1:15112 s1:15076 s1:20882 s1:20885 s1:26368 s1:26268 s1:32941 s1:17369
    s1:26391 s1:26395 s1:26401 s1:26462 s1:26451 s1:144323 s1:15177 s1:26618 s1:26501 s1:26706
    s1:26757 s1:144493 s1:26766 s1:26655 s1:26900 s1:15261 s1:26946 s1:27043 s1:27114 s1:27304
    s1:145059 s1:27355 s1:15384 s1:27425 s1:145575 s1:27476 s1:15438 s1:27506 s1:27551 s1:27578
    s1:27579 s1:146061 s1:138507 s1:146170 s1:27726 s1:146620 s1:27839 s1:27853 s1:27751
    s1:27926 s1:27966 s1:28023 s1:27969 s1:28009 s1:28024 s1:28037 s1:146718 s1:27956 s1:28207
    s1:28270 s1:15667 s1:28363 s1:28359 s1:147153 s1:28153 s1:28526 s1:147294 s1:147342 s1:28614
    s1:28729 s1:28702 s1:28699 s1:15766 s1:28746 s1:28797 s1:28791 s1:28845 s1:132389 s1:28997
    s1:148067 s1:29084 s1:148395 s1:29224 s1:29237 s1:29264 s1:149000 s1:29312 s1:29333
    s1:149301 s1:149524 s1:29562 s1:29579 s1:16044 s1:29605 s1:16056 s1:16056 s1:29767 s1:29788
    s1:29809 s1:29829 s1:29898 s1:16155 s1:29988 s1:150582 s1:30014 s1:150674 s1:30064 s1:139679
    s1:30224 s1:151457 s1:151480 s1:151620 s1:16380 s1:16392 s1:30452 s1:151795 s1:151794
    s1:151833 s1:151859 s1:30494 s1:30495 s1:30495 s1:30538 s1:16441 s1:30603 s1:16454 s1:16534
    s1:152605 s1:30798 s1:30860 s1:30924 s1:16611 s1:153126 s1:31062 s1:153242 s1:153285
    s1:31119 s1:31211 s1:16687 s1:31296 s1:31306 s1:31311 s1:153980 s1:154279 s1:154279 s1:31470
    s1:16898 s1:154539 s1:31686 s1:31689 s1:16935 s1:154752 s1:31954 s1:17056 s1:31976 s1:31971
    s1:32000 s1:155526 s1:32099 s1:17153 s1:32199 s1:32258 s1:32325 s1:17204 s1:156200 s1:156231
    s1:17241 s1:156377 s1:32634 s1:156478 s1:32661 s1:32762 s1:32773 s1:156890 s1:156963
    s1:32864 s1:157096 s1:32880 s1:144223 s1:17365 s1:32946 s1:33027 s1:17419 s1:33086 s1:23221
    s1:157607 s1:157621 s1:144275 s1:144284 s1:33281 s1:33284 s1:36766 s1:17515 s1:33425
    s1:33419 s1:33437 s1:21171 s1:33457 s1:33459 s1:33469 s1:33510 s1:158524 s1:33509 s1:33565
    s1:33635 s1:33709 s1:33571 s1:33725 s1:33767 s1:33879 s1:33619 s1:33738 s1:33740 s1:33756
    s1:158774 s1:159083 s1:158933 s1:17707 s1:34033 s1:34035 s1:34070 s1:160714 s1:34148
    s1:159532 s1:17757 s1:17761 s1:159665 s1:159954 s1:17771 s1:34384 s1:34396 s1:34407 s1:34409
    s1:34473 s1:34440 s1:34574 s1:34530 s1:34681 s1:34600 s1:34667 s1:34694 s1:17879 s1:34785
    s1:34817 s1:17913 s1:34912 s1:34915 s1:161383 s1:35031 s1:35038 s1:17973 s1:35066 s1:13499
    s1:161966 s1:162150 s1:18110 s1:18119 s1:35488 s1:35565 s1:35722 s1:35925 s1:162984 s1:36011
    s1:36033 s1:36123 s1:36215 s1:163631 s1:133124 s1:36299 s1:36284 s1:36336 s1:133342 s1:36564
    s1:36664 s1:165330 s1:165357 s1:37012 s1:37105 s1:37137 s1:165678 s1:37147 s1:37432 s1:37591
    s1:37592 s1:37500 s1:37881 s1:37909 s1:166906 s1:38283 s1:18837 s1:38327 s1:167287 s1:18918
    s1:38595 s1:23986 s1:38691 s1:168261 s1:168474 s1:19054 s1:19062 s1:38880 s1:168970 s1:19122
    s1:169110 s1:38923 s1:38923 s1:38953 s1:169398 s1:39138 s1:19251 s1:39209 s1:39335 s1:39362
    s1:39422 s1:19406 s1:170800 s1:39698 s1:40000 s1:40189 s1:19662 s1:19693 s1:40295 s1:172238
    s1:19704 s1:172293 s1:172558 s1:172689 s1:40635 s1:19798 s1:40697 s1:40702 s1:40709 s1:40719
    s1:40726 s1:40763 s1:173568 n919010"
/-- Canonical combining classes: `n` zero, `c` the given class. -/
def combiningClasses : RunTable := RunTable.ofText
  "n768 c21:230 c1:232 c4:220 c1:232 c1:216 c5:220 c2:202 c4:220 c2:202 c11:220 c5:1 c4:220
    c8:230 c1:240 c1:230 c3:220 c3:230 c2:220 n1 c3:230 c4:220 c1:230 c1:232 c2:220 c1:230
    c1:233 c2:234 c1:233 c2:234 c1:233 c13:230 n275 c5:230 n265 c1:220 c4:230 c1:220 c3:230
    c1:222 c1:220 c6:230 c6:220 c2:230 c1:220 c2:230 c1:222 c1:228 c1:230 c1:10 c1:11 c1:12
    c1:13 c1:14 c1:15 c1:16 c1:17 c1:18 c2:19 c1:20 c1:21 c1:22 n1 c1:23 n1 c1:24 c1:25 n1
    c1:230 c1:220 n1 c1:18 n72 c8:230 c1:30 c1:31 c1:32 n48 c1:27 c1:28 c1:29 c1:30 c1:31 c1:32
    c1:33 c1:34 c2:230 c2:220 c5:230 c1:220 c2:230 c1:220 n16 c1:35 n101 c7:230 n2 c4:230 c1:220
    c1:230 n2 c2:230 n1 c1:220 c2:230 c1:220 n35 c1:36 n30 c1:230 c1:220 c2:230 c1:220 c2:230
    c3:220 c1:230 c2:220 c1:230 c1:220 c3:230 c1:220 c1:230 c1:220 c1:230 c1:220 c1:230 c1:220
    c2:230 n160 c7:230 c1:220 c1:230 n9 c1:220 n24 c4:230 n1 c9:230 n1 c3:230 n1 c5:230 n43
    c3:220 n60 c1:230 c3:220 c4:230 n42 c5:230 c5:220 c14:230 n1 c1:220 c2:230 c1:220 c2:230
    c1:220 c3:230 c3:220 c1:27 c1:28 c1:29 c3:230 c1:220 c2:230 c2:220 c5:230 n60 c1:7 n16 c1:9
    n3 c1:230 c1:220 c2:230 n103 c1:7 n16 c1:9 n48 c1:230 n61 c1:7 n16 c1:9 n110 c1:7 n16 c1:9
    n110 c1:7 n16 c1:9 n127 c1:9 n110 c1:7 n16 c1:9 n7 c1:84 c1:91 n101 c1:7 n16 c1:9 n109 c2:9
    n16 c1:9 n124 c1:9 n109 c2:103 c1:9 n13 c4:107 n108 c2:118 c1:9 n13 c4:122 n76 c2:220 n27
    c1:220 n1 c1:220 n1 c1:216 n55 c1:129 c1:130 n1 c1:132 n5 c4:130 n2 c1:130 n1 c2:230 c1:9 n1
    c2:230 n62 c1:220 n112 c1:7 n1 c2:9 n82 c1:220 n719 c3:230 n948 c2:9 n30 c1:9 n157 c1:9 n10
    c1:230 n203 c1:228 n143 c1:222 c1:230 c1:220 n219 c1:230 c1:220 n71 c1:9 n20 c8:230 n2
    c1:220 n48 c5:230 c6:220 c2:230 c1:220 n1 c2:220 c2:230 c2:220 c5:230 c1:220 c4:230 n101
    c1:7 n15 c1:9 n38 c1:230 c1:220 c7:230 n54 c2:9 n58 c1:7 n11 c2:9 n67 c1:7 n152 c3:230 n1
    c1:1 c5:220 c2:230 c4:220 c1:230 n1 c7:1 n4 c1:220 n6 c1:230 n3 c2:230 n198 c2:230 c1:220
    c7:230 c1:220 c2:230 c1:234 c1:214 c1:220 c1:202 c37:230 c1:232 c2:228 c1:220 c1:218 c1:230
    c1:233 c1:220 c1:230 c1:220 n720 c2:230 c2:1 c4:230 c3:1 c2:230 n4 c1:230 n3 c2:1 c1:230
    c1:220 c1:230 c2:1 c4:220 c1:230 n3070 c3:230 n141 c1:9 n96 c32:230 n554 c1:218 c1:228
    c1:232 c1:222 c2:224 n105 c2:8 n30164 c1:230 n4 c10:230 n32 c2:230 n80 c2:230 n276 c1:9 n37
    c1:9 n151 c1:9 n27 c18:230 n57 c3:220 n37 c1:9 n95 c1:7 n12 c1:9 n239 c1:230 n1 c2:230
    c1:220 n2 c2:230 n5 c2:230 n1 c1:230 n52 c1:9 n246 c1:9 n20272 c1:26 n769 c7:230 c7:220
    c2:230 n973 c1:220 n226 c1:220 n149 c5:230 n1682 c1:220 n1 c1:230 n40 c1:230 c1:1 c1:220 n4
    c1:9 n165 c1:230 c1:220 n573 c4:230 n387 c2:230 n153 c2:220 c3:230 c1:220 c1:230 c4:220 n49
    c1:230 c1:220 c1:230 c1:220 n192 c1:9 n41 c1:9 n14 c1:9 n57 c1:9 c1:7 n69 c3:230 n48 c2:9
    n62 c1:7 n76 c1:9 n9 c1:7 n106 c1:9 c1:7 n178 c1:7 c1:9 n80 c2:7 n16 c1:9 n24 c7:230 n3
    c5:230 n205 c1:9 n3 c1:7 n23 c1:230 n99 c1:9 c1:7 n251 c1:9 c1:7 n126 c1:9 n118 c1:9 c1:7
    n115 c1:9 n269 c1:9 c1:7 n258 c2:9 n4 c1:7 n156 c1:9 n83 c1:9 n18 c1:9 n81 c1:9 n421 c1:9
    n258 c1:7 n1 c2:9 n81 c1:9 n19800 c5:1 n59 c7:230 n1209 c2:6 n19628 c1:1 n5318 c2:216 c3:1
    n3 c1:226 c5:216 n8 c8:220 n2 c5:230 c2:220 n30 c4:230 n148 c3:230 n3515 c7:230 n1 c17:230
    n2 c7:230 n1 c2:230 n1 c5:230 n261 c7:230 n375 c1:230 n61 c4:230 n1504 c7:220 n109 c6:230
    c1:7 n988853"
/-- The canonical combining class of a character. -/
def combiningClass (c : Char) : Nat :=
  if c.toNat < 0x300 then 0
  else ((combiningClasses.lookup c.toNat).arguments.headD 0).toNat

/-- The characters that numbers of a table stand for. -/
def charsOf (numbers : List Int) : List Char := numbers.map fun n => Char.ofNat n.toNat

/-- A Hangul syllable as its two or three letters. -/
def decomposeHangul (n : Nat) : List Char :=
  let index := n - 0xAC00
  let leading := Char.ofNat (0x1100 + index / 588)
  let vowel := Char.ofNat (0x1161 + index % 588 / 28)
  if index % 28 = 0 then [leading, vowel]
  else [leading, vowel, Char.ofNat (0x11A7 + index % 28)]

/-- One step of canonical decomposition. -/
def decomposeStep (c : Char) : List Char :=
  let n := c.toNat
  if n < 0xC0 then [c]
  else if 0xAC00 ≤ n && n ≤ 0xD7A3 then decomposeHangul n
  else
    let run := decompositions.lookup n
    if run.kind = 'n' then [c] else charsOf run.arguments

/-- Puts a combining mark in front of the marks with a smaller class at the
    end of a reversed text. -/
def insertMark (c : Char) (cls : Nat) : List Char → List Char
  | [] => [c]
  | d :: r =>
    let other := combiningClass d
    if cls < other then d :: insertMark c cls r else c :: d :: r

/-- Canonical order, by insertion: the reversed text so far is ordered. -/
def orderMarks (cs : List Char) : List Char :=
  (cs.foldl (fun done c =>
    let cls := combiningClass c
    if cls = 0 then c :: done else insertMark c cls done) []).reverse

/-- The full canonical decomposition, in canonical order. No character takes
    more than four steps. -/
def decompose (cs : List Char) : List Char :=
  let step (cs : List Char) := cs.flatMap decomposeStep
  orderMarks (step (step (step (step cs))))

/-- The pairs that compose, with what they compose to. -/
def compositions : List ((Nat × Nat) × Nat) :=
  decompositions.runs.toList.filterMap fun run =>
    match run.kind, run.arguments with
    | 'c', [a, b] => some ((a.toNat, b.toNat), run.start)
    | _, _ => none

/-- What two characters compose to. -/
def composePair (a b : Char) : Option Char :=
  let m := a.toNat
  let n := b.toNat
  if 0x1100 ≤ m && m ≤ 0x1112 && 0x1161 ≤ n && n ≤ 0x1175 then
    some (Char.ofNat (0xAC00 + ((m - 0x1100) * 21 + (n - 0x1161)) * 28))
  else if 0xAC00 ≤ m && m ≤ 0xD7A3 && (m - 0xAC00) % 28 = 0 && 0x11A8 ≤ n && n ≤ 0x11C2 then
    some (Char.ofNat (m + (n - 0x11A7)))
  else
    (compositions.find? fun p => p.1.1 = m && p.1.2 = n).map fun p => Char.ofNat p.2

/-- Composes a decomposed text. The starter is the last character of class
    zero, `passed` holds the reversed characters after it that did not
    compose. A character composes with the starter unless a passed one of the
    same or a higher class blocks it. -/
def composeFrom (starter : Char) (passed : List Char) : List Char → List Char
  | [] => starter :: passed.reverse
  | c :: r =>
    let cls := combiningClass c
    let blocked := match passed with
      | [] => false
      | d :: _ => let other := combiningClass d; other = 0 || cls ≤ other
    match if blocked then none else composePair starter c with
    | some composed => composeFrom composed passed r
    | none =>
      if cls = 0 then starter :: passed.reverse ++ composeFrom c [] r
      else composeFrom starter (c :: passed) r

/-- Composition of a decomposed text. Marks before the first starter stay. -/
def compose (cs : List Char) : List Char :=
  let marks := cs.takeWhile fun c => combiningClass c ≠ 0
  match cs.dropWhile fun c => combiningClass c ≠ 0 with
  | [] => marks
  | starter :: r => marks ++ composeFrom starter [] r

/-- Normalization form C. -/
def normalize (cs : List Char) : List Char :=
  if cs.all fun c => c.toNat < 0x300 then cs else compose (decompose cs)

end Unicode

end BrokerClient
