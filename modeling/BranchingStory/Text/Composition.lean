import BranchingStory.Text.Basic

/-!
# Composed texts

Canonical composition, for the characters that names of hosts may hold.  A composed
character stands for a base and a mark.  Marks have classes; marks of different classes
stand in the order of their classes, and a mark joins its base unless a mark of the same
or a higher class stands between.  `Text.isComposed` says that a text is as composing
its parts would make it.
-/

namespace BranchingStory

/-- Reads a list of numbers in threes. -/
def threes : List Nat → List (Nat × Nat × Nat)
  | a :: b :: c :: ns => (a, b, c) :: threes ns
  | _ => []

/-- Composed characters, each with its base and its mark. -/
def compositions : List (Nat × Nat × Nat) :=
  threes
    [224, 97, 768, 225, 97, 769, 226, 97, 770, 227, 97, 771, 228, 97, 776, 229, 97, 778, 231, 99,
     807, 232, 101, 768, 233, 101, 769, 234, 101, 770, 235, 101, 776, 236, 105, 768, 237, 105,
     769, 238, 105, 770, 239, 105, 776, 241, 110, 771, 242, 111, 768, 243, 111, 769, 244, 111,
     770, 245, 111, 771, 246, 111, 776, 249, 117, 768, 250, 117, 769, 251, 117, 770, 252, 117,
     776, 253, 121, 769, 255, 121, 776, 257, 97, 772, 259, 97, 774, 261, 97, 808, 263, 99, 769,
     265, 99, 770, 267, 99, 775, 269, 99, 780, 271, 100, 780, 275, 101, 772, 277, 101, 774, 279,
     101, 775, 281, 101, 808, 283, 101, 780, 285, 103, 770, 287, 103, 774, 289, 103, 775, 291,
     103, 807, 293, 104, 770, 297, 105, 771, 299, 105, 772, 301, 105, 774, 303, 105, 808, 309,
     106, 770, 311, 107, 807, 314, 108, 769, 316, 108, 807, 318, 108, 780, 324, 110, 769, 326,
     110, 807, 328, 110, 780, 333, 111, 772, 335, 111, 774, 337, 111, 779, 341, 114, 769, 343,
     114, 807, 345, 114, 780, 347, 115, 769, 349, 115, 770, 351, 115, 807, 353, 115, 780, 355,
     116, 807, 357, 116, 780, 361, 117, 771, 363, 117, 772, 365, 117, 774, 367, 117, 778, 369,
     117, 779, 371, 117, 808, 373, 119, 770, 375, 121, 770, 378, 122, 769, 380, 122, 775, 382,
     122, 780, 417, 111, 795, 432, 117, 795, 462, 97, 780, 464, 105, 780, 466, 111, 780, 468,
     117, 780, 470, 252, 772, 472, 252, 769, 474, 252, 780, 476, 252, 768, 479, 228, 772, 481,
     551, 772, 483, 230, 772, 487, 103, 780, 489, 107, 780, 491, 111, 808, 493, 491, 772, 495,
     658, 780, 496, 106, 780, 501, 103, 769, 505, 110, 768, 507, 229, 769, 509, 230, 769, 511,
     248, 769, 513, 97, 783, 515, 97, 785, 517, 101, 783, 519, 101, 785, 521, 105, 783, 523, 105,
     785, 525, 111, 783, 527, 111, 785, 529, 114, 783, 531, 114, 785, 533, 117, 783, 535, 117,
     785, 537, 115, 806, 539, 116, 806, 543, 104, 780, 551, 97, 775, 553, 101, 807, 555, 246,
     772, 557, 245, 772, 559, 111, 775, 561, 559, 772, 563, 121, 772, 912, 970, 769, 940, 945,
     769, 941, 949, 769, 942, 951, 769, 943, 953, 769, 944, 971, 769, 970, 953, 776, 971, 965,
     776, 972, 959, 769, 973, 965, 769, 974, 969, 769, 1081, 1080, 774, 1104, 1077, 768, 1105,
     1077, 776, 1107, 1075, 769, 1111, 1110, 776, 1116, 1082, 769, 1117, 1080, 768, 1118, 1091,
     774, 1143, 1141, 783, 1218, 1078, 774, 1233, 1072, 774, 1235, 1072, 776, 1239, 1077, 774,
     1243, 1241, 776, 1245, 1078, 776, 1247, 1079, 776, 1251, 1080, 772, 1253, 1080, 776, 1255,
     1086, 776, 1259, 1257, 776, 1261, 1101, 776, 1263, 1091, 772, 1265, 1091, 776, 1267, 1091,
     779, 1269, 1095, 776, 1273, 1099, 776, 1570, 1575, 1619, 1571, 1575, 1620, 1572, 1608, 1620,
     1573, 1575, 1621, 1574, 1610, 1620, 1728, 1749, 1620, 1730, 1729, 1620, 1747, 1746, 1620,
     2345, 2344, 2364, 2353, 2352, 2364, 2356, 2355, 2364, 2507, 2503, 2494, 2508, 2503, 2519,
     2888, 2887, 2902, 2891, 2887, 2878, 2892, 2887, 2903, 2964, 2962, 3031, 3018, 3014, 3006,
     3019, 3015, 3006, 3020, 3014, 3031, 3144, 3142, 3158, 3264, 3263, 3285, 3271, 3270, 3285,
     3272, 3270, 3286, 3274, 3270, 3266, 3275, 3274, 3285, 3402, 3398, 3390, 3403, 3399, 3390,
     3404, 3398, 3415, 3546, 3545, 3530, 3548, 3545, 3535, 3549, 3548, 3530, 3550, 3545, 3551,
     4134, 4133, 4142, 6918, 6917, 6965, 6920, 6919, 6965, 6922, 6921, 6965, 6924, 6923, 6965,
     6926, 6925, 6965, 6930, 6929, 6965, 6971, 6970, 6965, 6973, 6972, 6965, 6976, 6974, 6965,
     6977, 6975, 6965, 6979, 6978, 6965, 7681, 97, 805, 7683, 98, 775, 7685, 98, 803, 7687, 98,
     817, 7689, 231, 769, 7691, 100, 775, 7693, 100, 803, 7695, 100, 817, 7697, 100, 807, 7699,
     100, 813, 7701, 275, 768, 7703, 275, 769, 7705, 101, 813, 7707, 101, 816, 7709, 553, 774,
     7711, 102, 775, 7713, 103, 772, 7715, 104, 775, 7717, 104, 803, 7719, 104, 776, 7721, 104,
     807, 7723, 104, 814, 7725, 105, 816, 7727, 239, 769, 7729, 107, 769, 7731, 107, 803, 7733,
     107, 817, 7735, 108, 803, 7737, 7735, 772, 7739, 108, 817, 7741, 108, 813, 7743, 109, 769,
     7745, 109, 775, 7747, 109, 803, 7749, 110, 775, 7751, 110, 803, 7753, 110, 817, 7755, 110,
     813, 7757, 245, 769, 7759, 245, 776, 7761, 333, 768, 7763, 333, 769, 7765, 112, 769, 7767,
     112, 775, 7769, 114, 775, 7771, 114, 803, 7773, 7771, 772, 7775, 114, 817, 7777, 115, 775,
     7779, 115, 803, 7781, 347, 775, 7783, 353, 775, 7785, 7779, 775, 7787, 116, 775, 7789, 116,
     803, 7791, 116, 817, 7793, 116, 813, 7795, 117, 804, 7797, 117, 816, 7799, 117, 813, 7801,
     361, 769, 7803, 363, 776, 7805, 118, 771, 7807, 118, 803, 7809, 119, 768, 7811, 119, 769,
     7813, 119, 776, 7815, 119, 775, 7817, 119, 803, 7819, 120, 775, 7821, 120, 776, 7823, 121,
     775, 7825, 122, 770, 7827, 122, 803, 7829, 122, 817, 7830, 104, 817, 7831, 116, 776, 7832,
     119, 778, 7833, 121, 778, 7841, 97, 803, 7843, 97, 777, 7845, 226, 769, 7847, 226, 768,
     7849, 226, 777, 7851, 226, 771, 7853, 7841, 770, 7855, 259, 769, 7857, 259, 768, 7859, 259,
     777, 7861, 259, 771, 7863, 7841, 774, 7865, 101, 803, 7867, 101, 777, 7869, 101, 771, 7871,
     234, 769, 7873, 234, 768, 7875, 234, 777, 7877, 234, 771, 7879, 7865, 770, 7881, 105, 777,
     7883, 105, 803, 7885, 111, 803, 7887, 111, 777, 7889, 244, 769, 7891, 244, 768, 7893, 244,
     777, 7895, 244, 771, 7897, 7885, 770, 7899, 417, 769, 7901, 417, 768, 7903, 417, 777, 7905,
     417, 771, 7907, 417, 803, 7909, 117, 803, 7911, 117, 777, 7913, 432, 769, 7915, 432, 768,
     7917, 432, 777, 7919, 432, 771, 7921, 432, 803, 7923, 121, 768, 7925, 121, 803, 7927, 121,
     777, 7929, 121, 771, 7936, 945, 787, 7937, 945, 788, 7938, 7936, 768, 7939, 7937, 768, 7940,
     7936, 769, 7941, 7937, 769, 7942, 7936, 834, 7943, 7937, 834, 7952, 949, 787, 7953, 949,
     788, 7954, 7952, 768, 7955, 7953, 768, 7956, 7952, 769, 7957, 7953, 769, 7968, 951, 787,
     7969, 951, 788, 7970, 7968, 768, 7971, 7969, 768, 7972, 7968, 769, 7973, 7969, 769, 7974,
     7968, 834, 7975, 7969, 834, 7984, 953, 787, 7985, 953, 788, 7986, 7984, 768, 7987, 7985,
     768, 7988, 7984, 769, 7989, 7985, 769, 7990, 7984, 834, 7991, 7985, 834, 8000, 959, 787,
     8001, 959, 788, 8002, 8000, 768, 8003, 8001, 768, 8004, 8000, 769, 8005, 8001, 769, 8016,
     965, 787, 8017, 965, 788, 8018, 8016, 768, 8019, 8017, 768, 8020, 8016, 769, 8021, 8017,
     769, 8022, 8016, 834, 8023, 8017, 834, 8032, 969, 787, 8033, 969, 788, 8034, 8032, 768,
     8035, 8033, 768, 8036, 8032, 769, 8037, 8033, 769, 8038, 8032, 834, 8039, 8033, 834, 8048,
     945, 768, 8050, 949, 768, 8052, 951, 768, 8054, 953, 768, 8056, 959, 768, 8058, 965, 768,
     8060, 969, 768, 8112, 945, 774, 8113, 945, 772, 8118, 945, 834, 8134, 951, 834, 8144, 953,
     774, 8145, 953, 772, 8146, 970, 768, 8150, 953, 834, 8151, 970, 834, 8160, 965, 774, 8161,
     965, 772, 8162, 971, 768, 8164, 961, 787, 8165, 961, 788, 8166, 965, 834, 8167, 971, 834,
     8182, 969, 834, 12364, 12363, 12441, 12366, 12365, 12441, 12368, 12367, 12441, 12370, 12369,
     12441, 12372, 12371, 12441, 12374, 12373, 12441, 12376, 12375, 12441, 12378, 12377, 12441,
     12380, 12379, 12441, 12382, 12381, 12441, 12384, 12383, 12441, 12386, 12385, 12441, 12389,
     12388, 12441, 12391, 12390, 12441, 12393, 12392, 12441, 12400, 12399, 12441, 12401, 12399,
     12442, 12403, 12402, 12441, 12404, 12402, 12442, 12406, 12405, 12441, 12407, 12405, 12442,
     12409, 12408, 12441, 12410, 12408, 12442, 12412, 12411, 12441, 12413, 12411, 12442, 12436,
     12358, 12441, 12446, 12445, 12441, 12460, 12459, 12441, 12462, 12461, 12441, 12464, 12463,
     12441, 12466, 12465, 12441, 12468, 12467, 12441, 12470, 12469, 12441, 12472, 12471, 12441,
     12474, 12473, 12441, 12476, 12475, 12441, 12478, 12477, 12441, 12480, 12479, 12441, 12482,
     12481, 12441, 12485, 12484, 12441, 12487, 12486, 12441, 12489, 12488, 12441, 12496, 12495,
     12441, 12497, 12495, 12442, 12499, 12498, 12441, 12500, 12498, 12442, 12502, 12501, 12441,
     12503, 12501, 12442, 12505, 12504, 12441, 12506, 12504, 12442, 12508, 12507, 12441, 12509,
     12507, 12442, 12532, 12454, 12441, 12535, 12527, 12441, 12536, 12528, 12441, 12537, 12529,
     12441, 12538, 12530, 12441, 12542, 12541, 12441, 69786, 69785, 69818, 69788, 69787, 69818,
     69803, 69797, 69818, 69934, 69937, 69927, 69935, 69938, 69927, 70475, 70471, 70462, 70476,
     70471, 70487, 70843, 70841, 70842, 70844, 70841, 70832, 70846, 70841, 70845, 71098, 71096,
     71087, 71099, 71097, 71087, 71992, 71989, 71984]

/-- The classes of marks: first codes, codes behind the last ones, and classes. -/
def markClasses : List (Nat × Nat × Nat) :=
  threes
    [768, 789, 230, 789, 790, 232, 790, 794, 220, 794, 795, 232, 795, 796, 216, 796, 801, 220,
     801, 803, 202, 803, 807, 220, 807, 809, 202, 809, 820, 220, 820, 825, 1, 825, 829, 220, 829,
     832, 230, 834, 835, 230, 838, 839, 230, 839, 842, 220, 842, 845, 230, 845, 847, 220, 848,
     851, 230, 851, 855, 220, 855, 856, 230, 856, 857, 232, 857, 859, 220, 859, 860, 230, 860,
     861, 233, 861, 863, 234, 863, 864, 233, 864, 866, 234, 866, 867, 233, 867, 880, 230, 1155,
     1160, 230, 1425, 1426, 220, 1426, 1430, 230, 1430, 1431, 220, 1431, 1434, 230, 1434, 1435,
     222, 1435, 1436, 220, 1436, 1442, 230, 1442, 1448, 220, 1448, 1450, 230, 1450, 1451, 220,
     1451, 1453, 230, 1453, 1454, 222, 1454, 1455, 228, 1455, 1456, 230, 1456, 1457, 10, 1457,
     1458, 11, 1458, 1459, 12, 1459, 1460, 13, 1460, 1461, 14, 1461, 1462, 15, 1462, 1463, 16,
     1463, 1464, 17, 1464, 1465, 18, 1465, 1467, 19, 1467, 1468, 20, 1468, 1469, 21, 1469, 1470,
     22, 1471, 1472, 23, 1473, 1474, 24, 1474, 1475, 25, 1476, 1477, 230, 1477, 1478, 220, 1479,
     1480, 18, 1552, 1560, 230, 1560, 1561, 30, 1561, 1562, 31, 1562, 1563, 32, 1611, 1612, 27,
     1612, 1613, 28, 1613, 1614, 29, 1614, 1615, 30, 1615, 1616, 31, 1616, 1617, 32, 1617, 1618,
     33, 1618, 1619, 34, 1619, 1621, 230, 1621, 1623, 220, 1623, 1628, 230, 1628, 1629, 220,
     1629, 1631, 230, 1631, 1632, 220, 1648, 1649, 35, 1750, 1757, 230, 1759, 1763, 230, 1763,
     1764, 220, 1764, 1765, 230, 1767, 1769, 230, 1770, 1771, 220, 1771, 1773, 230, 1773, 1774,
     220, 1809, 1810, 36, 1840, 1841, 230, 1841, 1842, 220, 1842, 1844, 230, 1844, 1845, 220,
     1845, 1847, 230, 1847, 1850, 220, 1850, 1851, 230, 1851, 1853, 220, 1853, 1854, 230, 1854,
     1855, 220, 1855, 1858, 230, 1858, 1859, 220, 1859, 1860, 230, 1860, 1861, 220, 1861, 1862,
     230, 1862, 1863, 220, 1863, 1864, 230, 1864, 1865, 220, 1865, 1867, 230, 2027, 2034, 230,
     2034, 2035, 220, 2035, 2036, 230, 2045, 2046, 220, 2070, 2074, 230, 2075, 2084, 230, 2085,
     2088, 230, 2089, 2094, 230, 2137, 2140, 220, 2200, 2201, 230, 2201, 2204, 220, 2204, 2208,
     230, 2250, 2255, 230, 2255, 2260, 220, 2260, 2274, 230, 2275, 2276, 220, 2276, 2278, 230,
     2278, 2279, 220, 2279, 2281, 230, 2281, 2282, 220, 2282, 2285, 230, 2285, 2288, 220, 2288,
     2289, 27, 2289, 2290, 28, 2290, 2291, 29, 2291, 2294, 230, 2294, 2295, 220, 2295, 2297, 230,
     2297, 2299, 220, 2299, 2304, 230, 2364, 2365, 7, 2381, 2382, 9, 2385, 2386, 230, 2386, 2387,
     220, 2387, 2389, 230, 2492, 2493, 7, 2509, 2510, 9, 2558, 2559, 230, 2620, 2621, 7, 2637,
     2638, 9, 2748, 2749, 7, 2765, 2766, 9, 2876, 2877, 7, 2893, 2894, 9, 3021, 3022, 9, 3132,
     3133, 7, 3149, 3150, 9, 3157, 3158, 84, 3158, 3159, 91, 3260, 3261, 7, 3277, 3278, 9, 3387,
     3389, 9, 3405, 3406, 9, 3530, 3531, 9, 3640, 3642, 103, 3642, 3643, 9, 3656, 3660, 107,
     3768, 3770, 118, 3770, 3771, 9, 3784, 3788, 122, 3864, 3866, 220, 3893, 3894, 220, 3895,
     3896, 220, 3897, 3898, 216, 3953, 3954, 129, 3954, 3955, 130, 3956, 3957, 132, 3962, 3966,
     130, 3968, 3969, 130, 3970, 3972, 230, 3972, 3973, 9, 3974, 3976, 230, 4038, 4039, 220,
     4151, 4152, 7, 4153, 4155, 9, 4237, 4238, 220, 4957, 4960, 230, 5908, 5910, 9, 5940, 5941,
     9, 6098, 6099, 9, 6109, 6110, 230, 6313, 6314, 228, 6457, 6458, 222, 6458, 6459, 230, 6459,
     6460, 220, 6679, 6680, 230, 6680, 6681, 220, 6752, 6753, 9, 6773, 6781, 230, 6783, 6784,
     220, 6832, 6837, 230, 6837, 6843, 220, 6843, 6845, 230, 6845, 6846, 220, 6847, 6849, 220,
     6849, 6851, 230, 6851, 6853, 220, 6853, 6858, 230, 6858, 6859, 220, 6859, 6863, 230, 6964,
     6965, 7, 6980, 6981, 9, 7019, 7020, 230, 7020, 7021, 220, 7021, 7028, 230, 7082, 7084, 9,
     7142, 7143, 7, 7154, 7156, 9, 7223, 7224, 7, 7376, 7379, 230, 7380, 7381, 1, 7381, 7386,
     220, 7386, 7388, 230, 7388, 7392, 220, 7392, 7393, 230, 7394, 7401, 1, 7405, 7406, 220,
     7412, 7413, 230, 7416, 7418, 230, 7616, 7618, 230, 7618, 7619, 220, 7619, 7626, 230, 7626,
     7627, 220, 7627, 7629, 230, 7629, 7630, 234, 7630, 7631, 214, 7631, 7632, 220, 7632, 7633,
     202, 7633, 7670, 230, 7670, 7671, 232, 7671, 7673, 228, 7673, 7674, 220, 7674, 7675, 218,
     7675, 7676, 230, 7676, 7677, 233, 7677, 7678, 220, 7678, 7679, 230, 7679, 7680, 220, 11503,
     11506, 230, 11647, 11648, 9, 11744, 11776, 230, 12330, 12331, 218, 12331, 12332, 228, 12332,
     12333, 232, 12333, 12334, 222, 12441, 12443, 8, 42607, 42608, 230, 42612, 42622, 230, 42654,
     42656, 230, 42736, 42738, 230, 43014, 43015, 9, 43052, 43053, 9, 43204, 43205, 9, 43232,
     43250, 230, 43307, 43310, 220, 43347, 43348, 9, 43443, 43444, 7, 43456, 43457, 9, 43696,
     43697, 230, 43698, 43700, 230, 43700, 43701, 220, 43703, 43705, 230, 43710, 43712, 230,
     43713, 43714, 230, 43766, 43767, 9, 44013, 44014, 9, 64286, 64287, 26, 65056, 65063, 230,
     65063, 65070, 220, 65070, 65072, 230, 66045, 66046, 220, 66272, 66273, 220, 66422, 66427,
     230, 68109, 68110, 220, 68111, 68112, 230, 68152, 68153, 230, 68153, 68154, 1, 68154, 68155,
     220, 68159, 68160, 9, 68325, 68326, 230, 68326, 68327, 220, 68900, 68904, 230, 69291, 69293,
     230, 69446, 69448, 220, 69448, 69451, 230, 69451, 69452, 220, 69452, 69453, 230, 69453,
     69457, 220, 69506, 69507, 230, 69507, 69508, 220, 69508, 69509, 230, 69509, 69510, 220,
     69702, 69703, 9, 69744, 69745, 9, 69759, 69760, 9, 69817, 69818, 9, 69818, 69819, 7, 69888,
     69891, 230, 69939, 69941, 9, 70003, 70004, 7, 70080, 70081, 9, 70090, 70091, 7, 70197,
     70198, 9, 70198, 70199, 7, 70377, 70378, 7, 70378, 70379, 9, 70459, 70461, 7, 70477, 70478,
     9, 70502, 70509, 230, 70512, 70517, 230, 70722, 70723, 9, 70726, 70727, 7, 70750, 70751,
     230, 70850, 70851, 9, 70851, 70852, 7, 71103, 71104, 9, 71104, 71105, 7, 71231, 71232, 9,
     71350, 71351, 9, 71351, 71352, 7, 71467, 71468, 9, 71737, 71738, 9, 71738, 71739, 7, 71997,
     71999, 9, 72003, 72004, 7, 72160, 72161, 9, 72244, 72245, 9, 72263, 72264, 9, 72345, 72346,
     9, 72767, 72768, 9, 73026, 73027, 7, 73028, 73030, 9, 73111, 73112, 9, 92912, 92917, 1,
     92976, 92983, 230, 94192, 94194, 6, 113822, 113823, 1, 122880, 122887, 230, 122888, 122905,
     230, 122907, 122914, 230, 122915, 122917, 230, 122918, 122923, 230, 123184, 123191, 230,
     123566, 123567, 230, 123628, 123632, 230, 125136, 125143, 220, 125252, 125258, 230, 125258,
     125259, 7]

/-- The class of a character, which is zero for what is no mark. -/
def markClass (c : Char) : Nat :=
  match markClasses.find? fun r => r.1 ≤ c.toNat && c.toNat < r.2.1 with
  | some r => r.2.2
  | none => 0

/-- The base and the mark of a composed character. -/
def parts? (c : Char) : Option (Char × Char) :=
  (compositions.find? (·.1 == c.toNat)).map fun t => (Char.ofNat t.2.1, Char.ofNat t.2.2)

/-- The composed character of a base and a mark. -/
def composed? (base mark : Char) : Option Char :=
  (compositions.find? fun t => t.2.1 == base.toNat && t.2.2 == mark.toNat).map fun t =>
    Char.ofNat t.1

namespace Text

/-- The character and the marks that `depth` steps take a character apart into. -/
def takeApart : (depth : Nat) → Char → Text
  | 0, c => [c]
  | depth + 1, c =>
    match parts? c with
    | some (base, mark) => takeApart depth base ++ [mark]
    | none => [c]

/-- How many marks a composed character has at most. -/
def mostMarks : Nat := 3

/-- Puts a mark behind the marks at the end of a text, given from its end, whose classes are
not higher. -/
def putMark (mark : Char) : Text → Text
  | [] => [mark]
  | c :: t => if markClass mark < markClass c then c :: putMark mark t else mark :: c :: t

/-- A text, given from its end, with one more character, a mark in its place. -/
def putChar (reversed : Text) (c : Char) : Text :=
  if markClass c = 0 then c :: reversed else putMark c reversed

/-- The text with everything taken apart and marks in order. -/
def decomposed (t : Text) : Text :=
  ((t.flatMap (takeApart mostMarks)).foldl putChar []).reverse

/-- Joins marks to the character `base` in front of them; `between`, given from its end,
holds the marks that stay. -/
def joinMarks (base : Char) (between : Text) : Text → Text
  | [] => base :: between.reverse
  | c :: t =>
    let joined := if between.all (markClass · < markClass c) then composed? base c else none
    match joined with
    | some base => joinMarks base between t
    | none =>
      if markClass c = 0 then base :: between.reverse ++ joinMarks c [] t
      else joinMarks base (c :: between) t

/-- The text with all that can be joined. -/
def composed (t : Text) : Text :=
  match decomposed t with
  | [] => []
  | c :: t => joinMarks c [] t

/-- Whether a text is composed. -/
def isComposed (t : Text) : Bool :=
  composed t == t

end Text

end BranchingStory
