import BrokerClient.Unicode.RunTable

/-!
# Mapping of Domain Names

How each character of a domain name is prepared for comparison: kept, dropped,
replaced, or refused. Characters that canonical composition changes anyway are
listed as kept, because composition follows the mapping.

## Main definitions

* `Idna.Fate`: What becomes of a character.
* `Idna.fate`: The mapping.
* `Idna.map?`: The mapping of a whole name.
-/

namespace BrokerClient

namespace Idna

/-- Runs of characters: `v` kept, `i` dropped, `x` refused, `d` replaced by the
    character at a distance, `p` pairs of which the first is replaced by the
    second, `s` replaced by a sequence. -/
def fates : RunTable := RunTable.ofText
  "v65 d26:32 v37 x32 d1:-128 v7 s1:32:776 v1 d1:-73 v2 i1 v1 s1:32:772 v2 d2:-128 s1:32:769
    d1:775 v2 s1:32:807 d1:-136 d1:-75 v1 s1:49:8260:52 s1:49:8260:50 s1:51:8260:52 v1 d23:32 v1
    d7:32 v33 p48 s1:105:775 v1 s1:105:106 s1:105:106 p4 v1 p6 s1:108:183 s1:108:183 p8
    s1:700:110 p46 d1:-121 p6 d1:-268 v1 d1:210 p4 d1:206 p2 d2:205 p2 v1 d1:79 d1:202 d1:203 p2
    d1:205 d1:207 v1 d1:211 d1:209 p2 v2 d1:211 d1:213 v1 d1:214 p6 d1:218 p2 d1:218 v2 p2
    d1:218 p2 d2:217 p4 d1:219 p2 v2 p2 v6 s1:100:382 s1:100:382 s1:100:382 s1:108:106
    s1:108:106 s1:108:106 s1:110:106 s1:110:106 s1:110:106 p16 v1 p18 v1 s1:100:122 s1:100:122
    s1:100:122 p2 d1:-97 d1:-56 p40 d1:-130 v1 p18 v6 d1:10795 p2 d1:-163 d1:10792 v2 p2 d1:-195
    d1:69 d1:71 p10 v96 d1:-584 d1:-75 d1:-584 d1:-577 d1:-59 d1:-58 d1:-53 d1:-576 d1:-575 v31
    s1:32:774 s1:32:775 s1:32:778 s1:32:808 s1:32:771 s1:32:779 v2 d1:-125 d1:-629 d1:-623
    d1:-619 d1:-79 v96 d1:116 v9 i1 v32 p4 v2 p2 x2 s1:32:953 v4 d1:116 x4 s1:32:769
    s1:32:776:769 d1:38 v1 d3:37 x1 d1:64 x1 d2:63 v1 d17:32 x1 d9:32 v35 d1:8 d1:-30 d1:-25
    d1:-13 d1:-6 d1:-9 d1:-15 d1:-22 v1 p24 d1:-54 d1:-48 d1:-47 v1 d1:-60 d1:-64 v1 p2 d1:-54
    p2 v1 d3:-130 d16:80 d32:32 v48 p34 v8 p54 d1:15 p14 v1 p96 x1 d38:48 x2 v46 s1:1381:1410 v3
    x2 v3 x1 v55 x8 v27 x4 v6 x17 v22 x1 v88 s1:1575:1652 s1:1608:1652 s1:1735:1652 s1:1610:1652
    v100 x1 v48 x2 v59 x2 v101 x14 v59 x2 v49 x2 v15 x1 v28 x2 v1 x1 v11 x5 v32 x7 v75 x1 v161
    x1 v8 x2 v2 x2 v22 x1 v7 x1 v1 x3 v4 x2 v9 x2 v2 x2 v4 x8 v1 x4 v2 x1 v5 x2 v25 x2 v3 x1 v6
    x4 v2 x2 v22 x1 v7 x1 v2 x1 v2 x1 v2 x2 v1 x1 v5 x4 v2 x2 v3 x3 v1 x7 v4 x1 v1 x7 v17 x10 v3
    x1 v9 x1 v3 x1 v22 x1 v7 x1 v2 x1 v5 x2 v10 x1 v3 x1 v3 x2 v1 x15 v4 x2 v12 x7 v7 x1 v3 x1
    v8 x2 v2 x2 v22 x1 v7 x1 v2 x1 v5 x2 v9 x2 v2 x2 v3 x7 v3 x4 v2 x1 v5 x2 v18 x10 v2 x1 v6 x3
    v3 x1 v4 x3 v2 x1 v1 x1 v2 x3 v2 x3 v3 x3 v12 x4 v5 x3 v3 x1 v4 x2 v1 x6 v1 x14 v21 x5 v13
    x1 v3 x1 v23 x1 v16 x2 v9 x1 v3 x1 v4 x7 v2 x1 v3 x1 v2 x2 v4 x2 v10 x7 v22 x1 v3 x1 v23 x1
    v10 x1 v5 x2 v9 x1 v3 x1 v4 x7 v2 x5 v3 x1 v4 x2 v10 x1 v3 x12 v13 x1 v3 x1 v51 x1 v3 x1 v6
    x4 v16 x2 v26 x1 v3 x1 v18 x3 v24 x1 v9 x1 v1 x2 v7 x3 v1 x4 v6 x1 v1 x1 v8 x6 v10 x2 v3 x12
    v50 s1:3661:3634 v7 x4 v29 x37 v2 x1 v1 x1 v5 x1 v24 x1 v1 x1 v12 s1:3789:3762 v10 x2 v5 x1
    v1 x1 v7 x1 v10 x2 s1:3755:3737 s1:3755:3745 v2 x32 v12 d1:-1 v59 x1 v36 x4 v6
    s1:4018:3953:3968 v1 s1:4019:3953:3968 v30 x1 v36 x1 v15 x1 v13 x37 v160 d38:7264 x1 d1:7264
    x5 d1:7264 x2 v44 d1:-32 v98 i2 v232 x1 v4 x2 v7 x1 v1 x1 v4 x2 v41 x1 v4 x2 v33 x1 v4 x2 v7
    x1 v1 x1 v4 x2 v15 x1 v57 x1 v4 x2 v67 x2 v32 x3 v26 x6 v86 x2 d6:-8 x2 v640 x1 v28 x3 v89
    x7 v22 x9 v24 x9 v20 x12 v13 x1 v3 x1 v2 x12 v52 i2 v40 x2 v10 x6 v10 x6 v11 i5 v10 x6 v89
    x7 v43 x5 v70 x10 v31 x1 v12 x4 v12 x4 v1 x3 v42 x2 v5 x11 v44 x4 v26 x6 v11 x3 v62 x2 v65
    x1 v29 x2 v11 x6 v10 x6 v14 x2 v46 x2 v12 x20 v77 x1 v166 x8 v60 x3 v15 x3 v51 d1:-6222
    d1:-6221 d1:-6212 d2:-6210 d1:-6211 d1:-6204 d1:-6180 d1:35267 p2 x5 d43:-3008 x2 d3:-3008
    v8 x8 v43 x5 v44 d1:-7371 d1:-7239 d1:-7372 v1 d2:-7372 d1:-6997 d8:-7372 v1 d1:-7373
    d1:-6938 d1:-7374 d1:-7373 d2:-7372 d1:-7371 d1:-7394 d2:-6900 d1:-68 d1:-7397 d2:-7396
    d1:-6897 d2:-6896 d1:-7398 v1 d1:-7396 d1:-7395 d1:-7174 d1:-7395 d1:-6911 d2:-62 d1:-7398
    d2:-7395 d1:-60 d1:-6891 d1:-7397 d1:-55 d3:-6571 d2:-6554 d1:-7417 d1:-7409 d2:-7407
    d2:-6580 d1:-6567 d2:-6563 v13 d1:-6459 v34 d1:-6985 d1:-7481 d1:-6984 d1:-7342 d1:-6979
    d1:-7482 d1:-6978 d1:-6977 d1:-6974 d3:-6972 d1:-44 d1:-6923 d1:-6972 d1:-37 d1:-6924
    d1:-6971 d1:-6973 d4:-6972 d1:-6970 d2:-6961 d1:-7178 d2:-6957 d1:-156 d2:-6958 d1:-7489
    d3:-6956 d1:-6663 v64 p150 v4 s1:97:702 d1:-58 v2 d1:-7615 v1 p96 v8 d8:-8 v6 x2 d6:-8 x2 v8
    d8:-8 v8 d8:-8 v6 x2 d6:-8 x2 v8 x1 d1:-8 x1 d1:-8 x1 d1:-8 x1 d1:-8 v8 d8:-8 v14 x2
    s1:7936:953 s1:7937:953 s1:7938:953 s1:7939:953 s1:7940:953 s1:7941:953 s1:7942:953
    s1:7943:953 s1:7936:953 s1:7937:953 s1:7938:953 s1:7939:953 s1:7940:953 s1:7941:953
    s1:7942:953 s1:7943:953 s1:7968:953 s1:7969:953 s1:7970:953 s1:7971:953 s1:7972:953
    s1:7973:953 s1:7974:953 s1:7975:953 s1:7968:953 s1:7969:953 s1:7970:953 s1:7971:953
    s1:7972:953 s1:7973:953 s1:7974:953 s1:7975:953 s1:8032:953 s1:8033:953 s1:8034:953
    s1:8035:953 s1:8036:953 s1:8037:953 s1:8038:953 s1:8039:953 s1:8032:953 s1:8033:953
    s1:8034:953 s1:8035:953 s1:8036:953 s1:8037:953 s1:8038:953 s1:8039:953 v2 s1:8048:953
    s1:945:953 s1:940:953 x1 v1 s1:8118:953 d2:-8 d1:-74 d1:-7183 s1:945:953 s1:32:787 v1
    s1:32:787 s1:32:834 s1:32:776:834 s1:8052:953 s1:951:953 s1:942:953 x1 v1 s1:8134:953 d1:-86
    d1:-7196 d1:-86 d1:-7197 s1:951:953 s1:32:787:768 s1:32:787:769 s1:32:787:834 v4 x2 v2 d2:-8
    d1:-100 d1:-7212 x1 s1:32:788:768 s1:32:788:769 s1:32:788:834 v8 d2:-8 d1:-112 d1:-7198
    d1:-7 s1:32:776:768 s1:32:776:769 v1 x2 s1:8060:953 s1:969:953 s1:974:953 x1 v1 s1:8182:953
    d1:-128 d1:-7213 d1:-126 d1:-7213 s1:969:953 s1:32:769 s1:32:788 x1 d1:-8160 d1:-8161
    d1:-8162 d1:-8163 d1:-8164 d1:-8165 d1:-8166 d1:-8167 d1:-8168 d1:-8169 d1:-8170 i1 v2 x2 v1
    d1:-1 v5 s1:32:819 v12 x3 v1 x7 d1:-8207 v3 s1:8242:8242 s1:8242:8242:8242 v1 s1:8245:8245
    s1:8245:8245:8245 v4 s1:33:33 v1 s1:32:773 v8 s1:63:63 s1:63:33 s1:33:63 v13
    s1:8242:8242:8242:8242 v7 d1:-8255 i5 x5 i6 d1:-8256 d1:-8200 x2 d6:-8256 d1:-8271 d1:407
    d1:-8255 d2:-8277 d1:-8209 d10:-8272 d1:-8287 d1:391 d1:-8271 d2:-8293 x1 d1:-8239 d1:-8236
    d1:-8227 d1:-8219 d1:-7739 d1:-8237 d4:-8235 d1:-8234 d2:-8232 x3 v8 s1:114:115 v25 x14 v33
    x15 s1:97:47:99 s1:97:47:115 d1:-8351 s1:176:99 v1 s1:99:47:111 s1:99:47:117 d1:-7852 v1
    s1:176:102 d2:-8355 d1:-8356 d1:-8357 d1:-8358 d1:-8168 d1:-8359 d1:-8360 d1:-8358 d1:-8359
    v1 d1:-8359 s1:110:111 v2 d3:-8361 d1:-8362 d1:-8363 v2 s1:115:109 s1:116:101:108 s1:116:109
    v1 d1:-8362 v1 d1:-7517 v1 d1:-8366 v1 d1:-8383 d1:-8262 d2:-8394 v1 d1:-8394 d2:-8395 d1:28
    d1:-8390 d1:-8389 d4:-7013 d1:-8400 v1 s1:102:97:120 d1:-7548 d1:-7562 d1:-7563 d1:-7551
    d1:209 v4 d1:-8417 d2:-8418 d2:-8415 v6 s1:49:8260:55 s1:49:8260:57 s1:49:8260:49:48
    s1:49:8260:51 s1:50:8260:51 s1:49:8260:53 s1:50:8260:53 s1:51:8260:53 s1:52:8260:53
    s1:49:8260:54 s1:53:8260:54 s1:49:8260:56 s1:51:8260:56 s1:53:8260:56 s1:55:8260:56
    s1:49:8260 d1:-8439 s1:105:105 s1:105:105:105 s1:105:118 d1:-8430 s1:118:105 s1:118:105:105
    s1:118:105:105:105 s1:105:120 d1:-8433 s1:120:105 s1:120:105:105 d1:-8448 d2:-8458 d1:-8450
    d1:-8455 s1:105:105 s1:105:105:105 s1:105:118 d1:-8446 s1:118:105 s1:118:105:105
    s1:118:105:105:105 s1:105:120 d1:-8449 s1:120:105 s1:120:105:105 d1:-8464 d2:-8474 d1:-8466
    v3 p2 v4 s1:48:8260:51 v2 x4 v156 s1:8747:8747 s1:8747:8747:8747 v1 s1:8750:8750
    s1:8750:8750:8750 v505 x22 v11 x21 d9:-9263 s1:49:48 s1:49:49 s1:49:50 s1:49:51 s1:49:52
    s1:49:53 s1:49:54 s1:49:55 s1:49:56 s1:49:57 s1:50:48 s1:40:49:41 s1:40:50:41 s1:40:51:41
    s1:40:52:41 s1:40:53:41 s1:40:54:41 s1:40:55:41 s1:40:56:41 s1:40:57:41 s1:40:49:48:41
    s1:40:49:49:41 s1:40:49:50:41 s1:40:49:51:41 s1:40:49:52:41 s1:40:49:53:41 s1:40:49:54:41
    s1:40:49:55:41 s1:40:49:56:41 s1:40:49:57:41 s1:40:50:48:41 x20 s1:40:97:41 s1:40:98:41
    s1:40:99:41 s1:40:100:41 s1:40:101:41 s1:40:102:41 s1:40:103:41 s1:40:104:41 s1:40:105:41
    s1:40:106:41 s1:40:107:41 s1:40:108:41 s1:40:109:41 s1:40:110:41 s1:40:111:41 s1:40:112:41
    s1:40:113:41 s1:40:114:41 s1:40:115:41 s1:40:116:41 s1:40:117:41 s1:40:118:41 s1:40:119:41
    s1:40:120:41 s1:40:121:41 s1:40:122:41 d26:-9301 d26:-9327 d1:-9402 v1313
    s1:8747:8747:8747:8747 v103 s1:58:58:61 s1:61:61 s1:61:61:61 v253 x2 v138 d48:48 v48 p2
    d1:-10743 d1:-3814 d1:-10727 v2 p6 d1:-10780 d1:-10749 d1:-10783 d1:-10782 v1 p2 v1 p2 v5
    d1:-11282 d1:-11271 d2:-10815 p100 v7 p4 v3 p2 x5 v45 x1 v1 x5 v1 x2 v56 x7 d1:-14 v1 x14
    v24 x9 v7 x1 v7 x1 v7 x1 v7 x1 v7 x1 v7 x1 v7 x1 v7 x1 v126 x34 v26 x1 v4 d1:15662 v83
    d1:28844 x12 d1:7936 d1:7975 d1:7988 d1:7996 d1:8021 d1:8064 d1:8070 d1:8089 d1:8114 d1:8758
    d1:8795 d1:8800 d1:8822 d1:8841 d1:8861 d1:8913 d1:8933 d1:8943 d1:9097 d1:9190 d1:9217
    d1:9221 d1:9250 d1:9258 d1:9284 d1:9296 d1:9320 d1:9371 d1:9388 d1:9414 d1:10169 d1:10240
    d1:10699 d1:10721 d1:10728 d1:10738 d1:10755 d1:10830 d1:11306 d1:11353 d1:11472 d1:11494
    d1:11512 d1:11533 d1:11586 d1:11588 d1:11949 d1:11958 d1:11969 d1:11981 d1:12096 d1:12103
    d1:12107 d1:12223 d1:12232 d1:12244 d1:12251 d1:12311 d1:12327 d1:12344 d1:12423 d1:13003
    d1:13048 d1:13068 d1:13807 d1:13811 d1:13893 d1:13908 d1:13920 d1:13940 d1:13978 d1:13982
    d1:14248 d1:14271 d1:14302 d1:15317 d1:15382 d1:15404 d1:15461 d1:15484 d1:15492 d1:15498
    d1:15549 d1:15553 d1:15584 d1:16662 d1:17108 d1:17119 d1:17123 d1:17126 d1:17133 d1:17150
    d1:17151 d1:17231 d1:17446 d1:17450 d1:17788 d1:17797 d1:17846 d1:17852 d1:17860 d1:17867
    d1:17957 d1:17963 d1:18190 d1:18196 d1:18244 d1:18260 d1:18306 d1:18542 d1:18548 d1:18564
    d1:18890 d1:19015 d1:19020 d1:19201 d1:19287 d1:19332 d1:19709 d1:19841 d1:20414 d1:20440
    d1:20496 d1:20546 d1:20613 d1:20623 d1:20628 d1:20660 d1:20735 d1:20744 d1:21089 d1:21095
    d1:21103 d1:21111 d1:21126 d1:21140 d1:21143 d1:21221 d1:21224 d1:21229 d1:22209 d1:22238
    d1:22706 d1:22717 d1:22739 d1:23021 d1:23033 d1:23103 d1:23148 d1:23714 d1:23728 d1:23742
    d1:23776 d1:23812 d1:24010 d1:24021 d1:24087 d1:24334 d1:24364 d1:24572 d1:24592 d1:24596
    d1:24815 d1:24998 d1:25122 d1:25127 d1:25131 d1:26064 d1:26072 d1:26227 d1:26380 d1:26382
    d1:26428 d1:26532 d1:26544 d1:26547 d1:26553 d1:26650 d1:26683 d1:26688 d1:26701 d1:26867
    d1:26917 d1:26920 d1:27102 d1:27104 d1:27122 d1:27373 d1:27420 d1:27426 d1:27495 d1:27504
    d1:27506 d1:27515 d1:27544 d1:27938 d1:28337 d1:28346 d1:28383 d1:28404 d1:28411 d1:28420
    d1:28423 d1:28462 d1:28465 d1:28481 d1:28485 d1:28497 d1:28523 d1:28537 d1:28544 d1:28602
    d1:28616 d1:28619 x42 d1:-12256 v1 d1:-12244 v51 d1:-36 v1 d1:8969 d2:8971 v5 x1 v86 x2 v2
    s1:32:12441 s1:32:12442 v2 s1:12424:12426 v95 s1:12467:12488 x5 v43 x1 d2:-8241 d1:-8073
    d1:-8242 d2:-8073 d3:-8244 d6:-8074 d1:-8230 d3:-8251 d1:-8227 d10:-8252 d21:-8174 i1
    d2:-8273 d2:-8096 d1:-8093 d1:-8092 d1:-8088 d1:-8085 d1:-8084 d1:-8274 d1:-8082 d1:-8081
    d2:-8276 d1:-8275 d2:-8274 d1:-8271 d1:-8270 d5:-8269 d1:-8267 d1:-8264 d1:-8255 d1:-8249
    d1:-8245 d2:-8081 d3:-8237 d2:-8195 d1:-8193 d2:-8185 d1:-8184 d1:-8175 d1:-8173 x1 v2
    d1:7278 d1:7417 d1:7285 d1:9542 d1:7284 d1:7318 d1:7283 d1:17305 d1:7359 d1:7294 d1:7269
    d1:10124 d1:9618 d1:7451 v70 x10 v16 s1:40:4352:41 s1:40:4354:41 s1:40:4355:41 s1:40:4357:41
    s1:40:4358:41 s1:40:4359:41 s1:40:4361:41 s1:40:4363:41 s1:40:4364:41 s1:40:4366:41
    s1:40:4367:41 s1:40:4368:41 s1:40:4369:41 s1:40:4370:41 s1:40:44032:41 s1:40:45208:41
    s1:40:45796:41 s1:40:46972:41 s1:40:47560:41 s1:40:48148:41 s1:40:49324:41 s1:40:50500:41
    s1:40:51088:41 s1:40:52264:41 s1:40:52852:41 s1:40:53440:41 s1:40:54028:41 s1:40:54616:41
    s1:40:51452:41 s1:40:50724:51204:41 s1:40:50724:54980:41 x1 s1:40:19968:41 s1:40:20108:41
    s1:40:19977:41 s1:40:22235:41 s1:40:20116:41 s1:40:20845:41 s1:40:19971:41 s1:40:20843:41
    s1:40:20061:41 s1:40:21313:41 s1:40:26376:41 s1:40:28779:41 s1:40:27700:41 s1:40:26408:41
    s1:40:37329:41 s1:40:22303:41 s1:40:26085:41 s1:40:26666:41 s1:40:26377:41 s1:40:31038:41
    s1:40:21517:41 s1:40:29305:41 s1:40:36001:41 s1:40:31069:41 s1:40:21172:41 s1:40:20195:41
    s1:40:21628:41 s1:40:23398:41 s1:40:30435:41 s1:40:20225:41 s1:40:36039:41 s1:40:21332:41
    s1:40:31085:41 s1:40:20241:41 s1:40:33258:41 s1:40:33267:41 d1:8971 d1:11319 d1:13121
    d1:18760 v8 s1:112:116:101 s1:50:49 s1:50:50 s1:50:51 s1:50:52 s1:50:53 s1:50:54 s1:50:55
    s1:50:56 s1:50:57 s1:51:48 s1:51:49 s1:51:50 s1:51:51 s1:51:52 s1:51:53 d1:-8544 d2:-8543
    d3:-8542 d1:-8541 d2:-8540 d5:-8539 d1:31122 d1:32297 d1:32884 d1:34059 d1:34646 d1:35233
    d1:36408 d1:37583 d1:38170 d1:39345 d1:39932 d1:40519 d1:41106 d1:41693 s1:52280:44256
    s1:51452:51032 d1:37938 v1 d1:7040 d1:7179 d1:7047 d1:9304 d1:7184 d1:7912 d1:7037 d1:7908
    d1:7125 d1:8376 d1:13438 d1:15840 d1:14760 d1:13467 d1:24387 d1:9360 d1:13141 d1:13721
    d1:13431 d1:18091 d1:8569 d1:16356 d1:23051 d1:18118 d1:8220 d1:18239 d1:17053 d1:9944
    d1:24013 d1:7821 d1:8402 d1:14921 d1:25957 d1:7280 d1:7927 d1:14528 d1:7014 d1:7048 d1:7013
    d1:11071 d1:8523 d1:8338 d1:10477 d1:10427 d1:17463 d1:7252 d1:23065 d1:8357 d1:9836
    s1:51:54 s1:51:55 s1:51:56 s1:51:57 s1:52:48 s1:52:49 s1:52:50 s1:52:51 s1:52:52 s1:52:53
    s1:52:54 s1:52:55 s1:52:56 s1:52:57 s1:53:48 s1:49:26376 s1:50:26376 s1:51:26376 s1:52:26376
    s1:53:26376 s1:54:26376 s1:55:26376 s1:56:26376 s1:57:26376 s1:49:48:26376 s1:49:49:26376
    s1:49:50:26376 s1:104:103 s1:101:114:103 s1:101:118 s1:108:116:100 d1:-558 d1:-557 d1:-556
    d1:-555 d2:-554 d1:-553 d1:-552 d1:-551 d1:-550 d1:-549 d1:-548 d1:-547 d1:-546 d1:-545
    d1:-544 d1:-543 d1:-541 d1:-540 d1:-539 d6:-538 d1:-536 d1:-534 d1:-532 d1:-530 d5:-528
    d1:-527 d1:-526 d6:-525 d4:-524 s1:20196:21644 s1:12450:12497:12540:12488
    s1:12450:12523:12501:12449 s1:12450:12531:12506:12450 s1:12450:12540:12523
    s1:12452:12491:12531:12464 s1:12452:12531:12481 s1:12454:12457:12531
    s1:12456:12473:12463:12540:12489 s1:12456:12540:12459:12540 s1:12458:12531:12473
    s1:12458:12540:12512 s1:12459:12452:12522 s1:12459:12521:12483:12488
    s1:12459:12525:12522:12540 s1:12460:12525:12531 s1:12460:12531:12510 s1:12462:12460
    s1:12462:12491:12540 s1:12461:12517:12522:12540 s1:12462:12523:12480:12540 s1:12461:12525
    s1:12461:12525:12464:12521:12512 s1:12461:12525:12513:12540:12488:12523
    s1:12461:12525:12527:12483:12488 s1:12464:12521:12512 s1:12464:12521:12512:12488:12531
    s1:12463:12523:12476:12452:12525 s1:12463:12525:12540:12493 s1:12465:12540:12473
    s1:12467:12523:12490 s1:12467:12540:12509 s1:12469:12452:12463:12523
    s1:12469:12531:12481:12540:12512 s1:12471:12522:12531:12464 s1:12475:12531:12481
    s1:12475:12531:12488 s1:12480:12540:12473 s1:12487:12471 s1:12489:12523 s1:12488:12531
    s1:12490:12494 s1:12494:12483:12488 s1:12495:12452:12484 s1:12497:12540:12475:12531:12488
    s1:12497:12540:12484 s1:12496:12540:12524:12523 s1:12500:12450:12473:12488:12523
    s1:12500:12463:12523 s1:12500:12467 s1:12499:12523 s1:12501:12449:12521:12483:12489
    s1:12501:12451:12540:12488 s1:12502:12483:12471:12455:12523 s1:12501:12521:12531
    s1:12504:12463:12479:12540:12523 s1:12506:12477 s1:12506:12491:12498 s1:12504:12523:12484
    s1:12506:12531:12473 s1:12506:12540:12472 s1:12505:12540:12479 s1:12509:12452:12531:12488
    s1:12508:12523:12488 s1:12507:12531 s1:12509:12531:12489 s1:12507:12540:12523
    s1:12507:12540:12531 s1:12510:12452:12463:12525 s1:12510:12452:12523 s1:12510:12483:12495
    s1:12510:12523:12463 s1:12510:12531:12471:12519:12531 s1:12511:12463:12525:12531
    s1:12511:12522 s1:12511:12522:12496:12540:12523 s1:12513:12460 s1:12513:12460:12488:12531
    s1:12513:12540:12488:12523 s1:12516:12540:12489 s1:12516:12540:12523 s1:12518:12450:12531
    s1:12522:12483:12488:12523 s1:12522:12521 s1:12523:12500:12540 s1:12523:12540:12502:12523
    s1:12524:12512 s1:12524:12531:12488:12466:12531 s1:12527:12483:12488 s1:48:28857 s1:49:28857
    s1:50:28857 s1:51:28857 s1:52:28857 s1:53:28857 s1:54:28857 s1:55:28857 s1:56:28857
    s1:57:28857 s1:49:48:28857 s1:49:49:28857 s1:49:50:28857 s1:49:51:28857 s1:49:52:28857
    s1:49:53:28857 s1:49:54:28857 s1:49:55:28857 s1:49:56:28857 s1:49:57:28857 s1:50:48:28857
    s1:50:49:28857 s1:50:50:28857 s1:50:51:28857 s1:50:52:28857 s1:104:112:97 s1:100:97
    s1:97:117 s1:98:97:114 s1:111:118 s1:112:99 s1:100:109 s1:100:109:50 s1:100:109:51
    s1:105:117 s1:24179:25104 s1:26157:21644 s1:22823:27491 s1:26126:27835
    s1:26666:24335:20250:31038 s1:112:97 s1:110:97 s1:956:97 s1:109:97 s1:107:97 s1:107:98
    s1:109:98 s1:103:98 s1:99:97:108 s1:107:99:97:108 s1:112:102 s1:110:102 s1:956:102
    s1:956:103 s1:109:103 s1:107:103 s1:104:122 s1:107:104:122 s1:109:104:122 s1:103:104:122
    s1:116:104:122 s1:956:108 s1:109:108 s1:100:108 s1:107:108 s1:102:109 s1:110:109 s1:956:109
    s1:109:109 s1:99:109 s1:107:109 s1:109:109:50 s1:99:109:50 s1:109:50 s1:107:109:50
    s1:109:109:51 s1:99:109:51 s1:109:51 s1:107:109:51 s1:109:8725:115 s1:109:8725:115:50
    s1:112:97 s1:107:112:97 s1:109:112:97 s1:103:112:97 s1:114:97:100 s1:114:97:100:8725:115
    s1:114:97:100:8725:115:50 s1:112:115 s1:110:115 s1:956:115 s1:109:115 s1:112:118 s1:110:118
    s1:956:118 s1:109:118 s1:107:118 s1:109:118 s1:112:119 s1:110:119 s1:956:119 s1:109:119
    s1:107:119 s1:109:119 s1:107:969 s1:109:969 x1 s1:98:113 s1:99:99 s1:99:100
    s1:99:8725:107:103 x1 s1:100:98 s1:103:121 s1:104:97 s1:104:112 s1:105:110 s1:107:107
    s1:107:109 s1:107:116 s1:108:109 s1:108:110 s1:108:111:103 s1:108:120 s1:109:98
    s1:109:105:108 s1:109:111:108 s1:112:104 x1 s1:112:112:109 s1:112:114 s1:115:114 s1:115:118
    s1:119:98 s1:118:8725:109 s1:97:8725:109 s1:49:26085 s1:50:26085 s1:51:26085 s1:52:26085
    s1:53:26085 s1:54:26085 s1:55:26085 s1:56:26085 s1:57:26085 s1:49:48:26085 s1:49:49:26085
    s1:49:50:26085 s1:49:51:26085 s1:49:52:26085 s1:49:53:26085 s1:49:54:26085 s1:49:55:26085
    s1:49:56:26085 s1:49:57:26085 s1:50:48:26085 s1:50:49:26085 s1:50:50:26085 s1:50:51:26085
    s1:50:52:26085 s1:50:53:26085 s1:50:54:26085 s1:50:55:26085 s1:50:56:26085 s1:50:57:26085
    s1:51:48:26085 s1:51:49:26085 s1:103:97:108 v28813 x3 v55 x9 v348 x20 p46 v18 p28 d1:-41554
    d1:-41553 v90 x8 v34 p14 v2 p62 d1:-1 v8 p4 d1:-35332 p10 v3 p2 d1:-42280 v2 p4 v2 p20
    d1:-42308 d1:-42319 d1:-42315 d1:-42305 d1:-42308 v1 d1:-42258 d1:-42282 d1:-42261 d1:928
    p16 d1:-48 d1:-42307 d1:-35384 p4 d1:-42343 p16 d1:-42561 x20 d1:-42878 d1:-42895 d1:-42893
    d1:-42883 p2 v1 d1:-42705 d1:-42662 v51 x3 v10 x6 v56 x8 v70 x8 v12 x6 v116 x11 v30 x3 v78
    x1 v11 x4 v33 x1 v55 x9 v14 x2 v10 x2 v103 x24 v28 x10 v6 x2 v6 x2 v6 x9 v7 x1 v7 x1 v44
    d1:-1077 d1:-38 d1:-43251 d1:-13 v9 d1:-43228 v2 x4 d80:-38864 v46 x2 v10 x6 v11172 x12 v23
    x4 v49 x8452 v366 x2 v106 x38 s1:102:102 s1:102:105 s1:102:108 s1:102:102:105 s1:102:102:108
    s1:115:116 s1:115:116 x12 s1:1396:1398 s1:1396:1381 s1:1396:1387 s1:1406:1398 s1:1396:1389
    x5 v3 d1:-62782 d1:-62801 d2:-62799 d3:-62793 d1:-62783 d1:-62782 d1:-64254 v13 x1 v5 x1 v1
    x1 v2 x1 v2 x1 v9 s1:1488:1500 d1:-62687 d1:-62688 d1:-62679 d1:-62680 d1:-62681 d1:-62682
    d1:-62680 d1:-62681 d1:-62682 d1:-62683 d1:-62682 d1:-62683 d1:-62684 d1:-62685 d1:-62692
    d1:-62693 d1:-62694 d1:-62695 d1:-62691 d1:-62692 d1:-62693 d1:-62694 d1:-62701 d1:-62702
    d1:-62703 d1:-62704 d1:-62662 d1:-62663 d1:-62664 d1:-62665 d1:-62664 d1:-62665 d1:-62666
    d1:-62667 d1:-62702 d1:-62703 d1:-62704 d1:-62705 d1:-62707 d1:-62708 d1:-62709 d1:-62710
    d1:-62708 d1:-62709 d1:-62710 d2:-62711 d1:-62712 d1:-62713 d1:-62714 d1:-62709 d1:-62710
    d1:-62712 d1:-62713 d1:-62712 d1:-62713 d1:-62720 d1:-62721 d1:-62706 d1:-62707 d1:-62715
    d1:-62716 d1:-62693 d1:-62694 d1:-62695 d1:-62696 d1:-62691 d1:-62692 d1:-62693 d1:-62694
    d1:-62691 d1:-62692 d1:-62693 d1:-62694 d1:-62697 d1:-62698 d1:-62699 d1:-62700 d1:-62692
    d2:-62693 d1:-62694 d1:-62695 d1:-62696 d1:-62692 d2:-62693 d1:-62694 d1:-62695 d1:-62696
    d1:-62700 d1:-62701 d1:-62702 d1:-62703 d1:-62684 d2:-62685 d1:-62686 v33 d1:-62758
    d1:-62759 d1:-62760 d1:-62761 d1:-62736 d1:-62737 d1:-62739 d1:-62740 d1:-62739 d1:-62740
    s1:1735:1652 d1:-62739 d1:-62740 d1:-62747 d1:-62748 d1:-62745 d1:-62746 d1:-62740 d1:-62741
    d1:-62742 d1:-62743 d1:-62879 d1:-62880 s1:1574:1575 s1:1574:1575 s1:1574:1749 s1:1574:1749
    s1:1574:1608 s1:1574:1608 s1:1574:1735 s1:1574:1735 s1:1574:1734 s1:1574:1734 s1:1574:1736
    s1:1574:1736 s1:1574:1744 s1:1574:1744 s1:1574:1744 s1:1574:1609 s1:1574:1609 s1:1574:1609
    d1:-62768 d1:-62769 d1:-62770 d1:-62771 s1:1574:1580 s1:1574:1581 s1:1574:1605 s1:1574:1609
    s1:1574:1610 s1:1576:1580 s1:1576:1581 s1:1576:1582 s1:1576:1605 s1:1576:1609 s1:1576:1610
    s1:1578:1580 s1:1578:1581 s1:1578:1582 s1:1578:1605 s1:1578:1609 s1:1578:1610 s1:1579:1580
    s1:1579:1605 s1:1579:1609 s1:1579:1610 s1:1580:1581 s1:1580:1605 s1:1581:1580 s1:1581:1605
    s1:1582:1580 s1:1582:1581 s1:1582:1605 s1:1587:1580 s1:1587:1581 s1:1587:1582 s1:1587:1605
    s1:1589:1581 s1:1589:1605 s1:1590:1580 s1:1590:1581 s1:1590:1582 s1:1590:1605 s1:1591:1581
    s1:1591:1605 s1:1592:1605 s1:1593:1580 s1:1593:1605 s1:1594:1580 s1:1594:1605 s1:1601:1580
    s1:1601:1581 s1:1601:1582 s1:1601:1605 s1:1601:1609 s1:1601:1610 s1:1602:1581 s1:1602:1605
    s1:1602:1609 s1:1602:1610 s1:1603:1575 s1:1603:1580 s1:1603:1581 s1:1603:1582 s1:1603:1604
    s1:1603:1605 s1:1603:1609 s1:1603:1610 s1:1604:1580 s1:1604:1581 s1:1604:1582 s1:1604:1605
    s1:1604:1609 s1:1604:1610 s1:1605:1580 s1:1605:1581 s1:1605:1582 s1:1605:1605 s1:1605:1609
    s1:1605:1610 s1:1606:1580 s1:1606:1581 s1:1606:1582 s1:1606:1605 s1:1606:1609 s1:1606:1610
    s1:1607:1580 s1:1607:1605 s1:1607:1609 s1:1607:1610 s1:1610:1580 s1:1610:1581 s1:1610:1582
    s1:1610:1605 s1:1610:1609 s1:1610:1610 s1:1584:1648 s1:1585:1648 s1:1609:1648
    s1:32:1612:1617 s1:32:1613:1617 s1:32:1614:1617 s1:32:1615:1617 s1:32:1616:1617
    s1:32:1617:1648 s1:1574:1585 s1:1574:1586 s1:1574:1605 s1:1574:1606 s1:1574:1609
    s1:1574:1610 s1:1576:1585 s1:1576:1586 s1:1576:1605 s1:1576:1606 s1:1576:1609 s1:1576:1610
    s1:1578:1585 s1:1578:1586 s1:1578:1605 s1:1578:1606 s1:1578:1609 s1:1578:1610 s1:1579:1585
    s1:1579:1586 s1:1579:1605 s1:1579:1606 s1:1579:1609 s1:1579:1610 s1:1601:1609 s1:1601:1610
    s1:1602:1609 s1:1602:1610 s1:1603:1575 s1:1603:1604 s1:1603:1605 s1:1603:1609 s1:1603:1610
    s1:1604:1605 s1:1604:1609 s1:1604:1610 s1:1605:1575 s1:1605:1605 s1:1606:1585 s1:1606:1586
    s1:1606:1605 s1:1606:1606 s1:1606:1609 s1:1606:1610 s1:1609:1648 s1:1610:1585 s1:1610:1586
    s1:1610:1605 s1:1610:1606 s1:1610:1609 s1:1610:1610 s1:1574:1580 s1:1574:1581 s1:1574:1582
    s1:1574:1605 s1:1574:1607 s1:1576:1580 s1:1576:1581 s1:1576:1582 s1:1576:1605 s1:1576:1607
    s1:1578:1580 s1:1578:1581 s1:1578:1582 s1:1578:1605 s1:1578:1607 s1:1579:1605 s1:1580:1581
    s1:1580:1605 s1:1581:1580 s1:1581:1605 s1:1582:1580 s1:1582:1605 s1:1587:1580 s1:1587:1581
    s1:1587:1582 s1:1587:1605 s1:1589:1581 s1:1589:1582 s1:1589:1605 s1:1590:1580 s1:1590:1581
    s1:1590:1582 s1:1590:1605 s1:1591:1581 s1:1592:1605 s1:1593:1580 s1:1593:1605 s1:1594:1580
    s1:1594:1605 s1:1601:1580 s1:1601:1581 s1:1601:1582 s1:1601:1605 s1:1602:1581 s1:1602:1605
    s1:1603:1580 s1:1603:1581 s1:1603:1582 s1:1603:1604 s1:1603:1605 s1:1604:1580 s1:1604:1581
    s1:1604:1582 s1:1604:1605 s1:1604:1607 s1:1605:1580 s1:1605:1581 s1:1605:1582 s1:1605:1605
    s1:1606:1580 s1:1606:1581 s1:1606:1582 s1:1606:1605 s1:1606:1607 s1:1607:1580 s1:1607:1605
    s1:1607:1648 s1:1610:1580 s1:1610:1581 s1:1610:1582 s1:1610:1605 s1:1610:1607 s1:1574:1605
    s1:1574:1607 s1:1576:1605 s1:1576:1607 s1:1578:1605 s1:1578:1607 s1:1579:1605 s1:1579:1607
    s1:1587:1605 s1:1587:1607 s1:1588:1605 s1:1588:1607 s1:1603:1604 s1:1603:1605 s1:1604:1605
    s1:1606:1605 s1:1606:1607 s1:1610:1605 s1:1610:1607 s1:1600:1614:1617 s1:1600:1615:1617
    s1:1600:1616:1617 s1:1591:1609 s1:1591:1610 s1:1593:1609 s1:1593:1610 s1:1594:1609
    s1:1594:1610 s1:1587:1609 s1:1587:1610 s1:1588:1609 s1:1588:1610 s1:1581:1609 s1:1581:1610
    s1:1580:1609 s1:1580:1610 s1:1582:1609 s1:1582:1610 s1:1589:1609 s1:1589:1610 s1:1590:1609
    s1:1590:1610 s1:1588:1580 s1:1588:1581 s1:1588:1582 s1:1588:1605 s1:1588:1585 s1:1587:1585
    s1:1589:1585 s1:1590:1585 s1:1591:1609 s1:1591:1610 s1:1593:1609 s1:1593:1610 s1:1594:1609
    s1:1594:1610 s1:1587:1609 s1:1587:1610 s1:1588:1609 s1:1588:1610 s1:1581:1609 s1:1581:1610
    s1:1580:1609 s1:1580:1610 s1:1582:1609 s1:1582:1610 s1:1589:1609 s1:1589:1610 s1:1590:1609
    s1:1590:1610 s1:1588:1580 s1:1588:1581 s1:1588:1582 s1:1588:1605 s1:1588:1585 s1:1587:1585
    s1:1589:1585 s1:1590:1585 s1:1588:1580 s1:1588:1581 s1:1588:1582 s1:1588:1605 s1:1587:1607
    s1:1588:1607 s1:1591:1605 s1:1587:1580 s1:1587:1581 s1:1587:1582 s1:1588:1580 s1:1588:1581
    s1:1588:1582 s1:1591:1605 s1:1592:1605 s1:1575:1611 s1:1575:1611 v18 s1:1578:1580:1605
    s1:1578:1581:1580 s1:1578:1581:1580 s1:1578:1581:1605 s1:1578:1582:1605 s1:1578:1605:1580
    s1:1578:1605:1581 s1:1578:1605:1582 s1:1580:1605:1581 s1:1580:1605:1581 s1:1581:1605:1610
    s1:1581:1605:1609 s1:1587:1581:1580 s1:1587:1580:1581 s1:1587:1580:1609 s1:1587:1605:1581
    s1:1587:1605:1581 s1:1587:1605:1580 s1:1587:1605:1605 s1:1587:1605:1605 s1:1589:1581:1581
    s1:1589:1581:1581 s1:1589:1605:1605 s1:1588:1581:1605 s1:1588:1581:1605 s1:1588:1580:1610
    s1:1588:1605:1582 s1:1588:1605:1582 s1:1588:1605:1605 s1:1588:1605:1605 s1:1590:1581:1609
    s1:1590:1582:1605 s1:1590:1582:1605 s1:1591:1605:1581 s1:1591:1605:1581 s1:1591:1605:1605
    s1:1591:1605:1610 s1:1593:1580:1605 s1:1593:1605:1605 s1:1593:1605:1605 s1:1593:1605:1609
    s1:1594:1605:1605 s1:1594:1605:1610 s1:1594:1605:1609 s1:1601:1582:1605 s1:1601:1582:1605
    s1:1602:1605:1581 s1:1602:1605:1605 s1:1604:1581:1605 s1:1604:1581:1610 s1:1604:1581:1609
    s1:1604:1580:1580 s1:1604:1580:1580 s1:1604:1582:1605 s1:1604:1582:1605 s1:1604:1605:1581
    s1:1604:1605:1581 s1:1605:1581:1580 s1:1605:1581:1605 s1:1605:1581:1610 s1:1605:1580:1581
    s1:1605:1580:1605 s1:1605:1582:1580 s1:1605:1582:1605 v2 s1:1605:1580:1582 s1:1607:1605:1580
    s1:1607:1605:1605 s1:1606:1581:1605 s1:1606:1581:1609 s1:1606:1580:1605 s1:1606:1580:1605
    s1:1606:1580:1609 s1:1606:1605:1610 s1:1606:1605:1609 s1:1610:1605:1605 s1:1610:1605:1605
    s1:1576:1582:1610 s1:1578:1580:1610 s1:1578:1580:1609 s1:1578:1582:1610 s1:1578:1582:1609
    s1:1578:1605:1610 s1:1578:1605:1609 s1:1580:1605:1610 s1:1580:1581:1609 s1:1580:1605:1609
    s1:1587:1582:1609 s1:1589:1581:1610 s1:1588:1581:1610 s1:1590:1581:1610 s1:1604:1580:1610
    s1:1604:1605:1610 s1:1610:1581:1610 s1:1610:1580:1610 s1:1610:1605:1610 s1:1605:1605:1610
    s1:1602:1605:1610 s1:1606:1581:1610 s1:1602:1605:1581 s1:1604:1581:1605 s1:1593:1605:1610
    s1:1603:1605:1610 s1:1606:1580:1581 s1:1605:1582:1610 s1:1604:1580:1605 s1:1603:1605:1605
    s1:1604:1580:1605 s1:1606:1580:1581 s1:1580:1581:1610 s1:1581:1580:1610 s1:1605:1580:1610
    s1:1601:1605:1610 s1:1576:1581:1610 s1:1603:1605:1605 s1:1593:1580:1605 s1:1589:1605:1605
    s1:1587:1582:1610 s1:1606:1580:1610 v8 x32 s1:1589:1604:1746 s1:1602:1604:1746
    s1:1575:1604:1604:1607 s1:1575:1603:1576:1585 s1:1605:1581:1605:1583 s1:1589:1604:1593:1605
    s1:1585:1587:1608:1604 s1:1593:1604:1610:1607 s1:1608:1587:1604:1605 s1:1589:1604:1609
    s1:1589:1604:1609:32:1575:1604:1604:1607:32:1593:1604:1610:1607:32:1608:1587:1604:1605
    s1:1580:1604:32:1580:1604:1575:1604:1607 s1:1585:1740:1575:1604 v3 i16 d1:-64996 d1:-52752
    x1 d2:-64985 d1:-65012 d1:-64983 d2:-52737 x7 v16 x1 d1:-56861 d1:-56863 d1:-64980 d1:-64981
    d2:-65037 d1:-64956 d1:-64955 d2:-52773 d2:-52779 d2:-52787 d2:-52791 d4:-52789 v2 d1:-65004
    d1:-65003 s1:32:773 s1:32:773 s1:32:773 s1:32:773 d1:-65006 d1:-65007 d1:-65008 d1:-65060
    d1:-52816 x2 d1:-65049 d1:-65051 d1:-65047 d1:-65078 d1:-56900 d2:-65073 d1:-64992 d1:-64991
    d2:-52809 d1:-65084 d1:-65082 d2:-65079 d1:-65078 d1:-65064 d1:-65063 d1:-65065 x1 d1:-65036
    d2:-65093 d1:-65067 x4 s1:32:1611 s1:1600:1611 s1:32:1612 v1 s1:32:1613 x1 s1:32:1614
    s1:1600:1614 s1:32:1615 s1:1600:1615 s1:32:1616 s1:1600:1616 s1:32:1617 s1:1600:1617
    s1:32:1618 s1:1600:1618 d2:-63583 d2:-63584 d2:-63585 d2:-63586 d2:-63587 d1:-63588
    d1:-63589 d2:-63590 d2:-63591 d1:-63592 d1:-63593 d2:-63594 d2:-63595 d1:-63596 d1:-63597
    d2:-63598 d1:-63599 d1:-63600 d2:-63601 d1:-63602 d1:-63603 d2:-63604 d1:-63605 d1:-63606
    d2:-63607 d1:-63608 d1:-63609 d2:-63610 d2:-63611 d2:-63612 d2:-63613 d2:-63614 d1:-63615
    d1:-63616 d2:-63617 d1:-63618 d1:-63619 d2:-63620 d1:-63621 d1:-63622 d2:-63623 d1:-63624
    d1:-63625 d2:-63626 d1:-63627 d1:-63628 d2:-63629 d1:-63630 d1:-63631 d2:-63632 d1:-63633
    d1:-63634 d2:-63635 d1:-63636 d1:-63637 d1:-63638 d1:-63632 d1:-63633 d1:-63634 d2:-63635
    d1:-63636 d1:-63637 d2:-63638 d1:-63639 d1:-63640 d2:-63641 d1:-63642 d1:-63643 d2:-63644
    d1:-63645 d1:-63646 d2:-63647 d1:-63648 d1:-63649 d2:-63650 d1:-63651 d1:-63652 d2:-63653
    d2:-63654 d2:-63655 d1:-63656 d1:-63657 d1:-63658 s1:1604:1570 s1:1604:1570 s1:1604:1571
    s1:1604:1571 s1:1604:1573 s1:1604:1573 s1:1604:1575 s1:1604:1575 x2 i1 x1 d32:-65248
    d26:-65216 d36:-65248 d2:-54746 d1:-65331 d2:-53078 d1:-53091 d1:-52842 d1:-52852 d1:-52934
    d1:-52933 d1:-52932 d1:-52931 d1:-52930 d1:-52873 d1:-52872 d1:-52871 d1:-52908 d1:-52852
    d1:-52943 d1:-52942 d1:-52941 d1:-52940 d2:-52939 d1:-52938 d1:-52937 d1:-52936 d1:-52935
    d1:-52934 d1:-52933 d1:-52932 d1:-52931 d1:-52930 d1:-52929 d1:-52928 d1:-52926 d1:-52925
    d1:-52924 d6:-52923 d1:-52921 d1:-52919 d1:-52917 d1:-52915 d5:-52913 d1:-52912 d1:-52911
    d6:-52910 d1:-52909 d1:-52906 d2:-52997 i1 d2:-61089 d1:-60921 d1:-61090 d2:-60921 d3:-61092
    d6:-60922 d1:-61078 d3:-61099 d1:-61075 d10:-61100 x3 d6:-61025 x2 d6:-61027 x2 d6:-61029 x2
    d3:-61031 x3 d2:-65342 d1:-65334 s1:32:772 d1:-65342 d1:-65344 d1:-57149 x1 d1:-56038
    d4:-56921 d1:-55885 d1:-55843 x17 v12 x1 v26 x1 v19 x1 v2 x1 v15 x2 v14 x34 v123 x5 v3 x4
    v45 x3 v88 x1 v13 x3 v1 x47 v46 x130 v29 x3 v49 x15 v28 x4 v36 x9 v30 x5 v43 x5 v30 x1 v37
    x4 v14 x42 d40:40 v118 x2 v10 x6 d36:40 x4 v36 x4 v40 x8 v52 x11 v1 d11:39 x1 d15:39 x1
    d7:39 x1 d2:39 x1 v11 x1 v15 x1 v7 x1 v2 x3 v52 x12 v311 x9 v22 x10 v8 x24 v1 d2:-66737
    d1:-67229 d1:-66795 d1:-66866 x1 d1:-66788 d1:-23586 d1:-66788 d1:-66790 d2:-66869 d1:-59900
    d1:-66870 d1:-66865 d1:-66791 d1:-66861 d1:-66864 d1:-66867 d1:-66809 d1:-67182 d1:-66810
    d1:-66864 d1:-66836 d2:-66799 d1:-66863 d1:55144 d1:-24591 d1:-66864 d1:55142 d1:-66834
    d1:55141 d1:-67242 d2:-66861 d1:-67380 d1:-66860 d1:55137 d2:-66859 d1:-66858 d1:-66819
    d1:-66822 d1:-23622 d1:-66823 d1:-66855 d1:-56127 x1 d1:-66851 d2:-66834 d1:-66845 d3:-67062
    d1:55121 d1:55140 x69 v6 x2 v1 x1 v44 x1 v2 x3 v1 x2 v23 x1 v72 x8 v9 x48 v19 x1 v2 x5 v33
    x3 v27 x5 v27 x38 v56 x4 v20 x2 v50 x1 v2 x5 v8 x1 v3 x1 v29 x2 v3 x4 v10 x7 v9 x7 v64 x32
    v39 x4 v12 x9 v54 x3 v29 x2 v27 x5 v26 x7 v4 x12 v7 x80 v73 x55 d51:64 x13 v51 x7 v46 x8 v10
    x6 v16 d22:32 x3 v29 x8 v2 x208 v31 x1 v42 x1 v3 x2 v2 x16 v6 x8 v9 x33 v46 x8 v42 x22 v26
    x38 v28 x20 v23 x9 v78 x4 v36 x9 v62 x1 v5 x13 v25 x7 v10 x6 v53 x1 v18 x8 v39 x9 v96 x1 v20
    x11 v18 x1 v47 x62 v7 x1 v1 x1 v4 x1 v15 x1 v11 x6 v59 x5 v10 x6 v4 x1 v8 x2 v2 x2 v22 x1 v7
    x1 v2 x1 v5 x1 v10 x2 v2 x2 v3 x2 v1 x6 v1 x5 v7 x2 v7 x3 v5 x11 v10 x1 v1 x2 v1 x1 v38 x1
    v10 x1 v1 x2 v1 x1 v4 x1 v10 x1 v2 x8 v2 x29 v92 x1 v5 x30 v72 x8 v10 x166 v54 x2 v38 x34
    v69 x11 v10 x6 v13 x19 v58 x6 v10 x6 v20 x28 v27 x2 v15 x4 v23 x185 v60 x100 d32:32 v51 x12
    v8 x2 v1 x2 v8 x1 v2 x1 v30 x1 v2 x2 v12 x9 v10 x70 v8 x2 v46 x2 v11 x27 v72 x8 v83 x13 v73
    x7 v10 x86 v8 x88 v34 x14 v10 x6 v9 x1 v45 x1 v14 x10 v29 x3 v32 x2 v22 x1 v14 x73 v7 x1 v2
    x1 v44 x3 v1 x1 v2 x1 v9 x8 v10 x6 v6 x1 v2 x1 v37 x1 v2 x1 v6 x7 v10 x6 v44 x4 v10 x246 v25
    x7 v17 x1 v41 x3 v29 x85 v1 x15 v50 x13 v923 x102 v111 x1 v5 x11 v196 x2636 v99 x13 v1072
    x16 v22 x10 v3995 x5 v583 x6841 v58 x1734 v569 x7 v31 x1 v10 x4 v81 x1 v10 x6 v30 x2 v6 x10
    v70 x10 v10 x1 v7 x1 v21 x5 v19 x432 v58 x198 d32:32 v59 x5 d25:27 x2 v25 x44 v75 x4 v57 x7
    v17 x64 v5 x11 v7 x9 v7382 x41 v32 x97 v115 x8701 v4 x1 v7 x1 v2 x1 v291 x15 v1 x29 v3 x2 v1
    x14 v4 x8 v396 x2308 v107 x5 v13 x3 v9 x7 v10 x2 v4 i4 x3932 v214 d26:-117877 d10:-117952 v3
    x3 v436 x6 v23 x15 v17 x15 v46 x2 v23 x9 v116 x60 v246 x10 v39 x2 v74 i8 v112 x21 v70 x122
    v20 x12 v20 x12 v87 x9 v25 x135 d26:-119711 d26:-119737 d26:-119763 d7:-119789 x1
    d18:-119789 d26:-119815 d26:-119841 d1:-119867 x1 d2:-119867 x2 d1:-119867 x2 d2:-119867 x2
    d4:-119867 x1 d8:-119867 d4:-119893 x1 d1:-119893 x1 d7:-119893 x1 d11:-119893 d26:-119919
    d26:-119945 d2:-119971 x1 d4:-119971 x2 d8:-119971 x1 d7:-119971 x1 d26:-119997 d2:-120023
    x1 d4:-120023 x1 d5:-120023 x1 d1:-120023 x3 d7:-120023 x1 d26:-120049 d26:-120075
    d26:-120101 d26:-120127 d26:-120153 d26:-120179 d26:-120205 d26:-120231 d26:-120257
    d26:-120283 d26:-120309 d26:-120335 d26:-120361 d1:-120179 d1:-119918 x2 d17:-119543
    d1:-119553 d7:-119543 d1:-111802 d17:-119569 d1:-119568 d7:-119569 d1:-111833 d1:-119591
    d1:-119589 d1:-119588 d1:-119577 d1:-119583 d1:-119585 d17:-119601 d1:-119611 d7:-119601
    d1:-111860 d17:-119627 d1:-119626 d7:-119627 d1:-111891 d1:-119649 d1:-119647 d1:-119646
    d1:-119635 d1:-119641 d1:-119643 d17:-119659 d1:-119669 d7:-119659 d1:-111918 d17:-119685
    d1:-119684 d7:-119685 d1:-111949 d1:-119707 d1:-119705 d1:-119704 d1:-119693 d1:-119699
    d1:-119701 d17:-119717 d1:-119727 d7:-119717 d1:-111976 d17:-119743 d1:-119742 d7:-119743
    d1:-112007 d1:-119765 d1:-119763 d1:-119762 d1:-119751 d1:-119757 d1:-119759 d17:-119775
    d1:-119785 d7:-119775 d1:-112034 d17:-119801 d1:-119800 d7:-119801 d1:-112065 d1:-119823
    d1:-119821 d1:-119820 d1:-119809 d1:-119815 d1:-119817 d1:-119789 d1:-119790 x2 d10:-120734
    d10:-120744 d10:-120754 d10:-120764 d10:-120774 v652 x15 v5 x1 v15 x1104 v31 x6 v6 x213 v7
    x1 v17 x2 v7 x1 v2 x1 v5 x5 d9:-121856 d3:-121855 d11:-121854 d1:-121852 d2:-121851
    d1:-80321 d1:-121714 d1:-121846 d1:-121845 d1:-121701 d1:-121760 d1:-121729 d9:-121889
    d2:-121888 d2:-121886 d1:-121885 d6:-121884 d2:-121883 d1:-121814 d1:-121874 d1:-121876
    d1:-121867 d1:-121792 d1:-80411 d1:-121788 x33 v1 x112 v45 x3 v14 x2 v10 x4 v2 x320 v31 x17
    v58 x5 v1 x464 v42 x214 v43 x4 v1 x192 v31 x1 v22 x8 v2 x224 v7 x1 v4 x1 v2 x1 v15 x1 v197
    x2 v16 x41 d34:34 v42 x4 v10 x4 v2 x785 v68 x76 v61 x194 d2:-124889 d1:-124886 d1:-124884 x1
    d1:-124861 d1:-124884 d1:-124890 d1:-124881 d1:-124863 d4:-124871 d1:-124891 d1:-124886
    d1:-124879 d1:-124892 d1:-124880 d1:-124898 d1:-124896 d2:-124907 d1:-124905 d1:-124904
    d1:-124899 d1:-124898 d1:-124897 d1:-124846 d1:-124771 d1:-124797 d1:-124848 x1 d1:-124921
    d1:-124918 x1 d1:-124893 x2 d1:-124922 x1 d1:-124895 d4:-124903 d1:-124923 d1:-124918
    d1:-124911 d1:-124924 d1:-124912 x1 d1:-124928 d2:-124939 d1:-124937 x1 d1:-124931 x1
    d1:-124929 x6 d1:-124950 x4 d1:-124954 x1 d1:-124927 x1 d1:-124935 x1 d1:-124935 d1:-124955
    d1:-124950 x1 d1:-124956 d1:-124944 x1 d1:-124960 x2 d1:-124969 x1 d1:-124963 x1 d1:-124961
    x1 d1:-124835 x1 d1:-124912 x1 d1:-124985 d1:-124982 x1 d1:-124957 x2 d1:-124986 d1:-124977
    d1:-124959 d1:-124967 x1 d2:-124967 d1:-124987 d1:-124982 d1:-124975 d1:-124988 d1:-124976
    x1 d1:-124992 d2:-125003 d1:-125001 x1 d1:-124995 d1:-124994 d1:-124993 d1:-124942 x1
    d1:-124893 x1 d2:-125017 d1:-125014 d1:-125012 d2:-124989 d1:-125012 d1:-125018 d1:-125009
    d1:-124991 x1 d3:-124999 d1:-125019 d1:-125014 d1:-125007 d1:-125020 d1:-125008 d1:-125026
    d1:-125024 d2:-125035 d1:-125033 d1:-125032 d1:-125027 d1:-125026 d1:-125025 x5 d1:-125049
    d1:-125046 d1:-125044 x1 d1:-125021 d1:-125044 d1:-125050 d1:-125041 d1:-125023 x1
    d3:-125031 d1:-125051 d1:-125046 d1:-125039 d1:-125052 d1:-125040 d1:-125058 d1:-125056
    d2:-125067 d1:-125065 d1:-125064 d1:-125059 d1:-125058 d1:-125057 x52 v2 x270 v44 x4 v100
    x12 v15 x2 v15 x1 v15 x1 v37 x11 s1:48:44 s1:49:44 s1:50:44 s1:51:44 s1:52:44 s1:53:44
    s1:54:44 s1:55:44 s1:56:44 s1:57:44 v5 s1:40:97:41 s1:40:98:41 s1:40:99:41 s1:40:100:41
    s1:40:101:41 s1:40:102:41 s1:40:103:41 s1:40:104:41 s1:40:105:41 s1:40:106:41 s1:40:107:41
    s1:40:108:41 s1:40:109:41 s1:40:110:41 s1:40:111:41 s1:40:112:41 s1:40:113:41 s1:40:114:41
    s1:40:115:41 s1:40:116:41 s1:40:117:41 s1:40:118:41 s1:40:119:41 s1:40:120:41 s1:40:121:41
    s1:40:122:41 s1:12308:115:12309 d1:-127176 d1:-127162 s1:99:100 s1:119:122 v1 d26:-127183
    s1:104:118 s1:109:118 s1:115:100 s1:115:115 s1:112:112:118 s1:119:99 v26 s1:109:99
    s1:109:100 s1:109:114 v35 s1:100:106 v29 x56 v26 s1:12411:12363 s1:12467:12467 d1:-115021
    x13 d1:-102341 d1:-104122 d1:-106054 d1:-115020 d1:-107400 d1:-104699 d1:-92211 d1:-104686
    d1:-107380 d1:-101369 d1:-98553 d1:-101506 d1:-106447 d1:-103057 d1:-106641 d1:-101487
    d1:-106499 d1:-95455 d1:-97539 d1:-91514 d1:-104756 d1:-105964 d1:-99090 d1:-102290
    d1:-102099 d1:-107561 d1:-107553 d1:-90593 d1:-103494 d1:-107520 d1:-106043 d1:-102184
    d1:-91328 d1:-102366 d1:-96433 d1:-96185 d1:-106028 d1:-99253 d1:-101165 d1:-101167
    d1:-97541 d1:-106439 d1:-105604 d1:-90350 x4 s1:12308:26412:12309 s1:12308:19977:12309
    s1:12308:20108:12309 s1:12308:23433:12309 s1:12308:28857:12309 s1:12308:25171:12309
    s1:12308:30423:12309 s1:12308:21213:12309 s1:12308:25943:12309 x7 d1:-103097 d1:-106082 x14
    v6 x154 v985 x3 v17 x3 v13 x3 v218 x6 v12 x4 v1 x15 v12 x4 v56 x8 v10 x6 v40 x8 v30 x2 v12
    x4 v2 x14 v9 x39 v344 x8 v14 x2 v13 x3 v11 x3 v57 x1 v1 x4 v16 x2 v12 x4 v10 x7 v147 x1 v92
    d10:-129984 v1 x1029 v42720 x32 v4382 x2 v5774 x2 v7473 x15 v622 x2466 v542 x1506 v4939 x5
    v8490 x707718 i240 x196112"
/-- What becomes of a character of a domain name. -/
inductive Fate where
  | kept
  | dropped
  | refused
  | replaced (text : List Char)
  deriving DecidableEq, Repr

/-- What becomes of a character. -/
def fate (c : Char) : Fate :=
  let run := fates.lookup c.toNat
  match run.kind, run.arguments with
  | 'v', _ => .kept
  | 'i', _ => .dropped
  | 'd', distance :: _ => .replaced [Char.ofNat (c.toNat + distance).toNat]
  | 'p', _ =>
    if (c.toNat - run.start) % 2 = 0 then .replaced [Char.ofNat (c.toNat + 1)] else .kept
  | 's', codes => .replaced (codes.map fun n => Char.ofNat n.toNat)
  | _, _ => .refused

/-- The mapping of a whole name, if no character is refused. -/
def map? (name : List Char) : Option (List Char) :=
  (name.mapM fun c =>
    match fate c with
    | .kept => some [c]
    | .dropped => some []
    | .replaced text => some text
    | .refused => none).map List.flatten

end Idna

end BrokerClient
