import SecScan.Text.Ranges

/-!
The bidirectional class of every code point, from Unicode 14, as runs: each entry is the first
code point of a run and the class of the whole run, up to the next entry. The classes are
numbered: 0 for a code point not assigned, then L, R, AL, EN, ES, ET, AN, CS, NSM, BN and ON
as 1 to 11, and 12 for every other class (separators, white space and the explicit embedding,
override and isolate controls).
-/

namespace SecScan.Text

set_option maxRecDepth 20000 in
/-- Runs of code points of one bidirectional class: first code point and class number. -/
def bidiRuns : Array (Nat × Nat) := #[
  (0, 10), (9, 12), (14, 10), (28, 12), (33, 11), (35, 6), (38, 11), (43, 5), (44, 8), (45, 5),
  (46, 8), (48, 4), (58, 8), (59, 11), (65, 1), (91, 11), (97, 1), (123, 11), (127, 10), (133, 12),
  (134, 10), (160, 8), (161, 11), (162, 6), (166, 11), (170, 1), (171, 11), (173, 10), (174, 11),
  (176, 6), (178, 4), (180, 11), (181, 1), (182, 11), (185, 4), (186, 1), (187, 11), (192, 1),
  (215, 11), (216, 1), (247, 11), (248, 1), (697, 11), (699, 1), (706, 11), (720, 1), (722, 11),
  (736, 1), (741, 11), (750, 1), (751, 11), (768, 9), (880, 1), (884, 11), (886, 1), (888, 0),
  (890, 1), (894, 11), (895, 1), (896, 0), (900, 11), (902, 1), (903, 11), (904, 1), (907, 0),
  (908, 1), (909, 0), (910, 1), (930, 0), (931, 1), (1014, 11), (1015, 1), (1155, 9), (1162, 1),
  (1328, 0), (1329, 1), (1367, 0), (1369, 1), (1418, 11), (1419, 0), (1421, 11), (1423, 6),
  (1424, 0), (1425, 9), (1470, 2), (1471, 9), (1472, 2), (1473, 9), (1475, 2), (1476, 9),
  (1478, 2), (1479, 9), (1480, 0), (1488, 2), (1515, 0), (1519, 2), (1525, 0), (1536, 7),
  (1542, 11), (1544, 3), (1545, 6), (1547, 3), (1548, 8), (1549, 3), (1550, 11), (1552, 9),
  (1563, 3), (1611, 9), (1632, 7), (1642, 6), (1643, 7), (1645, 3), (1648, 9), (1649, 3),
  (1750, 9), (1757, 7), (1758, 11), (1759, 9), (1765, 3), (1767, 9), (1769, 11), (1770, 9),
  (1774, 3), (1776, 4), (1786, 3), (1806, 0), (1807, 3), (1809, 9), (1810, 3), (1840, 9),
  (1867, 0), (1869, 3), (1958, 9), (1969, 3), (1970, 0), (1984, 2), (2027, 9), (2036, 2),
  (2038, 11), (2042, 2), (2043, 0), (2045, 9), (2046, 2), (2070, 9), (2074, 2), (2075, 9),
  (2084, 2), (2085, 9), (2088, 2), (2089, 9), (2094, 0), (2096, 2), (2111, 0), (2112, 2),
  (2137, 9), (2140, 0), (2142, 2), (2143, 0), (2144, 3), (2155, 0), (2160, 3), (2191, 0),
  (2192, 7), (2194, 0), (2200, 9), (2208, 3), (2250, 9), (2274, 7), (2275, 9), (2307, 1),
  (2362, 9), (2363, 1), (2364, 9), (2365, 1), (2369, 9), (2377, 1), (2381, 9), (2382, 1),
  (2385, 9), (2392, 1), (2402, 9), (2404, 1), (2433, 9), (2434, 1), (2436, 0), (2437, 1),
  (2445, 0), (2447, 1), (2449, 0), (2451, 1), (2473, 0), (2474, 1), (2481, 0), (2482, 1),
  (2483, 0), (2486, 1), (2490, 0), (2492, 9), (2493, 1), (2497, 9), (2501, 0), (2503, 1),
  (2505, 0), (2507, 1), (2509, 9), (2510, 1), (2511, 0), (2519, 1), (2520, 0), (2524, 1),
  (2526, 0), (2527, 1), (2530, 9), (2532, 0), (2534, 1), (2546, 6), (2548, 1), (2555, 6),
  (2556, 1), (2558, 9), (2559, 0), (2561, 9), (2563, 1), (2564, 0), (2565, 1), (2571, 0),
  (2575, 1), (2577, 0), (2579, 1), (2601, 0), (2602, 1), (2609, 0), (2610, 1), (2612, 0),
  (2613, 1), (2615, 0), (2616, 1), (2618, 0), (2620, 9), (2621, 0), (2622, 1), (2625, 9),
  (2627, 0), (2631, 9), (2633, 0), (2635, 9), (2638, 0), (2641, 9), (2642, 0), (2649, 1),
  (2653, 0), (2654, 1), (2655, 0), (2662, 1), (2672, 9), (2674, 1), (2677, 9), (2678, 1),
  (2679, 0), (2689, 9), (2691, 1), (2692, 0), (2693, 1), (2702, 0), (2703, 1), (2706, 0),
  (2707, 1), (2729, 0), (2730, 1), (2737, 0), (2738, 1), (2740, 0), (2741, 1), (2746, 0),
  (2748, 9), (2749, 1), (2753, 9), (2758, 0), (2759, 9), (2761, 1), (2762, 0), (2763, 1),
  (2765, 9), (2766, 0), (2768, 1), (2769, 0), (2784, 1), (2786, 9), (2788, 0), (2790, 1),
  (2801, 6), (2802, 0), (2809, 1), (2810, 9), (2816, 0), (2817, 9), (2818, 1), (2820, 0),
  (2821, 1), (2829, 0), (2831, 1), (2833, 0), (2835, 1), (2857, 0), (2858, 1), (2865, 0),
  (2866, 1), (2868, 0), (2869, 1), (2874, 0), (2876, 9), (2877, 1), (2879, 9), (2880, 1),
  (2881, 9), (2885, 0), (2887, 1), (2889, 0), (2891, 1), (2893, 9), (2894, 0), (2901, 9),
  (2903, 1), (2904, 0), (2908, 1), (2910, 0), (2911, 1), (2914, 9), (2916, 0), (2918, 1),
  (2936, 0), (2946, 9), (2947, 1), (2948, 0), (2949, 1), (2955, 0), (2958, 1), (2961, 0),
  (2962, 1), (2966, 0), (2969, 1), (2971, 0), (2972, 1), (2973, 0), (2974, 1), (2976, 0),
  (2979, 1), (2981, 0), (2984, 1), (2987, 0), (2990, 1), (3002, 0), (3006, 1), (3008, 9),
  (3009, 1), (3011, 0), (3014, 1), (3017, 0), (3018, 1), (3021, 9), (3022, 0), (3024, 1),
  (3025, 0), (3031, 1), (3032, 0), (3046, 1), (3059, 11), (3065, 6), (3066, 11), (3067, 0),
  (3072, 9), (3073, 1), (3076, 9), (3077, 1), (3085, 0), (3086, 1), (3089, 0), (3090, 1),
  (3113, 0), (3114, 1), (3130, 0), (3132, 9), (3133, 1), (3134, 9), (3137, 1), (3141, 0),
  (3142, 9), (3145, 0), (3146, 9), (3150, 0), (3157, 9), (3159, 0), (3160, 1), (3163, 0),
  (3165, 1), (3166, 0), (3168, 1), (3170, 9), (3172, 0), (3174, 1), (3184, 0), (3191, 1),
  (3192, 11), (3199, 1), (3201, 9), (3202, 1), (3213, 0), (3214, 1), (3217, 0), (3218, 1),
  (3241, 0), (3242, 1), (3252, 0), (3253, 1), (3258, 0), (3260, 9), (3261, 1), (3269, 0),
  (3270, 1), (3273, 0), (3274, 1), (3276, 9), (3278, 0), (3285, 1), (3287, 0), (3293, 1),
  (3295, 0), (3296, 1), (3298, 9), (3300, 0), (3302, 1), (3312, 0), (3313, 1), (3315, 0),
  (3328, 9), (3330, 1), (3341, 0), (3342, 1), (3345, 0), (3346, 1), (3387, 9), (3389, 1),
  (3393, 9), (3397, 0), (3398, 1), (3401, 0), (3402, 1), (3405, 9), (3406, 1), (3408, 0),
  (3412, 1), (3426, 9), (3428, 0), (3430, 1), (3456, 0), (3457, 9), (3458, 1), (3460, 0),
  (3461, 1), (3479, 0), (3482, 1), (3506, 0), (3507, 1), (3516, 0), (3517, 1), (3518, 0),
  (3520, 1), (3527, 0), (3530, 9), (3531, 0), (3535, 1), (3538, 9), (3541, 0), (3542, 9),
  (3543, 0), (3544, 1), (3552, 0), (3558, 1), (3568, 0), (3570, 1), (3573, 0), (3585, 1),
  (3633, 9), (3634, 1), (3636, 9), (3643, 0), (3647, 6), (3648, 1), (3655, 9), (3663, 1),
  (3676, 0), (3713, 1), (3715, 0), (3716, 1), (3717, 0), (3718, 1), (3723, 0), (3724, 1),
  (3748, 0), (3749, 1), (3750, 0), (3751, 1), (3761, 9), (3762, 1), (3764, 9), (3773, 1),
  (3774, 0), (3776, 1), (3781, 0), (3782, 1), (3783, 0), (3784, 9), (3790, 0), (3792, 1),
  (3802, 0), (3804, 1), (3808, 0), (3840, 1), (3864, 9), (3866, 1), (3893, 9), (3894, 1),
  (3895, 9), (3896, 1), (3897, 9), (3898, 11), (3902, 1), (3912, 0), (3913, 1), (3949, 0),
  (3953, 9), (3967, 1), (3968, 9), (3973, 1), (3974, 9), (3976, 1), (3981, 9), (3992, 0),
  (3993, 9), (4029, 0), (4030, 1), (4038, 9), (4039, 1), (4045, 0), (4046, 1), (4059, 0),
  (4096, 1), (4141, 9), (4145, 1), (4146, 9), (4152, 1), (4153, 9), (4155, 1), (4157, 9),
  (4159, 1), (4184, 9), (4186, 1), (4190, 9), (4193, 1), (4209, 9), (4213, 1), (4226, 9),
  (4227, 1), (4229, 9), (4231, 1), (4237, 9), (4238, 1), (4253, 9), (4254, 1), (4294, 0),
  (4295, 1), (4296, 0), (4301, 1), (4302, 0), (4304, 1), (4681, 0), (4682, 1), (4686, 0),
  (4688, 1), (4695, 0), (4696, 1), (4697, 0), (4698, 1), (4702, 0), (4704, 1), (4745, 0),
  (4746, 1), (4750, 0), (4752, 1), (4785, 0), (4786, 1), (4790, 0), (4792, 1), (4799, 0),
  (4800, 1), (4801, 0), (4802, 1), (4806, 0), (4808, 1), (4823, 0), (4824, 1), (4881, 0),
  (4882, 1), (4886, 0), (4888, 1), (4955, 0), (4957, 9), (4960, 1), (4989, 0), (4992, 1),
  (5008, 11), (5018, 0), (5024, 1), (5110, 0), (5112, 1), (5118, 0), (5120, 11), (5121, 1),
  (5760, 12), (5761, 1), (5787, 11), (5789, 0), (5792, 1), (5881, 0), (5888, 1), (5906, 9),
  (5909, 1), (5910, 0), (5919, 1), (5938, 9), (5940, 1), (5943, 0), (5952, 1), (5970, 9),
  (5972, 0), (5984, 1), (5997, 0), (5998, 1), (6001, 0), (6002, 9), (6004, 0), (6016, 1),
  (6068, 9), (6070, 1), (6071, 9), (6078, 1), (6086, 9), (6087, 1), (6089, 9), (6100, 1),
  (6107, 6), (6108, 1), (6109, 9), (6110, 0), (6112, 1), (6122, 0), (6128, 11), (6138, 0),
  (6144, 11), (6155, 9), (6158, 10), (6159, 9), (6160, 1), (6170, 0), (6176, 1), (6265, 0),
  (6272, 1), (6277, 9), (6279, 1), (6313, 9), (6314, 1), (6315, 0), (6320, 1), (6390, 0),
  (6400, 1), (6431, 0), (6432, 9), (6435, 1), (6439, 9), (6441, 1), (6444, 0), (6448, 1),
  (6450, 9), (6451, 1), (6457, 9), (6460, 0), (6464, 11), (6465, 0), (6468, 11), (6470, 1),
  (6510, 0), (6512, 1), (6517, 0), (6528, 1), (6572, 0), (6576, 1), (6602, 0), (6608, 1),
  (6619, 0), (6622, 11), (6656, 1), (6679, 9), (6681, 1), (6683, 9), (6684, 0), (6686, 1),
  (6742, 9), (6743, 1), (6744, 9), (6751, 0), (6752, 9), (6753, 1), (6754, 9), (6755, 1),
  (6757, 9), (6765, 1), (6771, 9), (6781, 0), (6783, 9), (6784, 1), (6794, 0), (6800, 1),
  (6810, 0), (6816, 1), (6830, 0), (6832, 9), (6863, 0), (6912, 9), (6916, 1), (6964, 9),
  (6965, 1), (6966, 9), (6971, 1), (6972, 9), (6973, 1), (6978, 9), (6979, 1), (6989, 0),
  (6992, 1), (7019, 9), (7028, 1), (7039, 0), (7040, 9), (7042, 1), (7074, 9), (7078, 1),
  (7080, 9), (7082, 1), (7083, 9), (7086, 1), (7142, 9), (7143, 1), (7144, 9), (7146, 1),
  (7149, 9), (7150, 1), (7151, 9), (7154, 1), (7156, 0), (7164, 1), (7212, 9), (7220, 1),
  (7222, 9), (7224, 0), (7227, 1), (7242, 0), (7245, 1), (7305, 0), (7312, 1), (7355, 0),
  (7357, 1), (7368, 0), (7376, 9), (7379, 1), (7380, 9), (7393, 1), (7394, 9), (7401, 1),
  (7405, 9), (7406, 1), (7412, 9), (7413, 1), (7416, 9), (7418, 1), (7419, 0), (7424, 1),
  (7616, 9), (7680, 1), (7958, 0), (7960, 1), (7966, 0), (7968, 1), (8006, 0), (8008, 1),
  (8014, 0), (8016, 1), (8024, 0), (8025, 1), (8026, 0), (8027, 1), (8028, 0), (8029, 1),
  (8030, 0), (8031, 1), (8062, 0), (8064, 1), (8117, 0), (8118, 1), (8125, 11), (8126, 1),
  (8127, 11), (8130, 1), (8133, 0), (8134, 1), (8141, 11), (8144, 1), (8148, 0), (8150, 1),
  (8156, 0), (8157, 11), (8160, 1), (8173, 11), (8176, 0), (8178, 1), (8181, 0), (8182, 1),
  (8189, 11), (8191, 0), (8192, 12), (8203, 10), (8206, 1), (8207, 2), (8208, 11), (8232, 12),
  (8239, 8), (8240, 6), (8245, 11), (8260, 8), (8261, 11), (8287, 12), (8288, 10), (8293, 0),
  (8294, 12), (8298, 10), (8304, 4), (8305, 1), (8306, 0), (8308, 4), (8314, 5), (8316, 11),
  (8319, 1), (8320, 4), (8330, 5), (8332, 11), (8335, 0), (8336, 1), (8349, 0), (8352, 6),
  (8385, 0), (8400, 9), (8433, 0), (8448, 11), (8450, 1), (8451, 11), (8455, 1), (8456, 11),
  (8458, 1), (8468, 11), (8469, 1), (8470, 11), (8473, 1), (8478, 11), (8484, 1), (8485, 11),
  (8486, 1), (8487, 11), (8488, 1), (8489, 11), (8490, 1), (8494, 6), (8495, 1), (8506, 11),
  (8508, 1), (8512, 11), (8517, 1), (8522, 11), (8526, 1), (8528, 11), (8544, 1), (8585, 11),
  (8588, 0), (8592, 11), (8722, 5), (8723, 6), (8724, 11), (9014, 1), (9083, 11), (9109, 1),
  (9110, 11), (9255, 0), (9280, 11), (9291, 0), (9312, 11), (9352, 4), (9372, 1), (9450, 11),
  (9900, 1), (9901, 11), (10240, 1), (10496, 11), (11124, 0), (11126, 11), (11158, 0), (11159, 11),
  (11264, 1), (11493, 11), (11499, 1), (11503, 9), (11506, 1), (11508, 0), (11513, 11), (11520, 1),
  (11558, 0), (11559, 1), (11560, 0), (11565, 1), (11566, 0), (11568, 1), (11624, 0), (11631, 1),
  (11633, 0), (11647, 9), (11648, 1), (11671, 0), (11680, 1), (11687, 0), (11688, 1), (11695, 0),
  (11696, 1), (11703, 0), (11704, 1), (11711, 0), (11712, 1), (11719, 0), (11720, 1), (11727, 0),
  (11728, 1), (11735, 0), (11736, 1), (11743, 0), (11744, 9), (11776, 11), (11870, 0), (11904, 11),
  (11930, 0), (11931, 11), (12020, 0), (12032, 11), (12246, 0), (12272, 11), (12284, 0),
  (12288, 12), (12289, 11), (12293, 1), (12296, 11), (12321, 1), (12330, 9), (12334, 1),
  (12336, 11), (12337, 1), (12342, 11), (12344, 1), (12349, 11), (12352, 0), (12353, 1),
  (12439, 0), (12441, 9), (12443, 11), (12445, 1), (12448, 11), (12449, 1), (12539, 11),
  (12540, 1), (12544, 0), (12549, 1), (12592, 0), (12593, 1), (12687, 0), (12688, 1), (12736, 11),
  (12772, 0), (12784, 1), (12829, 11), (12831, 0), (12832, 1), (12880, 11), (12896, 1),
  (12924, 11), (12927, 1), (12977, 11), (12992, 1), (13004, 11), (13008, 1), (13175, 11),
  (13179, 1), (13278, 11), (13280, 1), (13311, 11), (13312, 1), (19904, 11), (19968, 1),
  (42125, 0), (42128, 11), (42183, 0), (42192, 1), (42509, 11), (42512, 1), (42540, 0), (42560, 1),
  (42607, 9), (42611, 11), (42612, 9), (42622, 11), (42624, 1), (42654, 9), (42656, 1), (42736, 9),
  (42738, 1), (42744, 0), (42752, 11), (42786, 1), (42888, 11), (42889, 1), (42955, 0), (42960, 1),
  (42962, 0), (42963, 1), (42964, 0), (42965, 1), (42970, 0), (42994, 1), (43010, 9), (43011, 1),
  (43014, 9), (43015, 1), (43019, 9), (43020, 1), (43045, 9), (43047, 1), (43048, 11), (43052, 9),
  (43053, 0), (43056, 1), (43064, 6), (43066, 0), (43072, 1), (43124, 11), (43128, 0), (43136, 1),
  (43204, 9), (43206, 0), (43214, 1), (43226, 0), (43232, 9), (43250, 1), (43263, 9), (43264, 1),
  (43302, 9), (43310, 1), (43335, 9), (43346, 1), (43348, 0), (43359, 1), (43389, 0), (43392, 9),
  (43395, 1), (43443, 9), (43444, 1), (43446, 9), (43450, 1), (43452, 9), (43454, 1), (43470, 0),
  (43471, 1), (43482, 0), (43486, 1), (43493, 9), (43494, 1), (43519, 0), (43520, 1), (43561, 9),
  (43567, 1), (43569, 9), (43571, 1), (43573, 9), (43575, 0), (43584, 1), (43587, 9), (43588, 1),
  (43596, 9), (43597, 1), (43598, 0), (43600, 1), (43610, 0), (43612, 1), (43644, 9), (43645, 1),
  (43696, 9), (43697, 1), (43698, 9), (43701, 1), (43703, 9), (43705, 1), (43710, 9), (43712, 1),
  (43713, 9), (43714, 1), (43715, 0), (43739, 1), (43756, 9), (43758, 1), (43766, 9), (43767, 0),
  (43777, 1), (43783, 0), (43785, 1), (43791, 0), (43793, 1), (43799, 0), (43808, 1), (43815, 0),
  (43816, 1), (43823, 0), (43824, 1), (43882, 11), (43884, 0), (43888, 1), (44005, 9), (44006, 1),
  (44008, 9), (44009, 1), (44013, 9), (44014, 0), (44016, 1), (44026, 0), (44032, 1), (55204, 0),
  (55216, 1), (55239, 0), (55243, 1), (55292, 0), (55296, 1), (64110, 0), (64112, 1), (64218, 0),
  (64256, 1), (64263, 0), (64275, 1), (64280, 0), (64285, 2), (64286, 9), (64287, 2), (64297, 5),
  (64298, 2), (64311, 0), (64312, 2), (64317, 0), (64318, 2), (64319, 0), (64320, 2), (64322, 0),
  (64323, 2), (64325, 0), (64326, 2), (64336, 3), (64451, 0), (64467, 3), (64830, 11), (64848, 3),
  (64912, 0), (64914, 3), (64968, 0), (64975, 11), (64976, 0), (65008, 3), (65021, 11), (65024, 9),
  (65040, 11), (65050, 0), (65056, 9), (65072, 11), (65104, 8), (65105, 11), (65106, 8),
  (65107, 0), (65108, 11), (65109, 8), (65110, 11), (65119, 6), (65120, 11), (65122, 5),
  (65124, 11), (65127, 0), (65128, 11), (65129, 6), (65131, 11), (65132, 0), (65136, 3),
  (65141, 0), (65142, 3), (65277, 0), (65279, 10), (65280, 0), (65281, 11), (65283, 6),
  (65286, 11), (65291, 5), (65292, 8), (65293, 5), (65294, 8), (65296, 4), (65306, 8), (65307, 11),
  (65313, 1), (65339, 11), (65345, 1), (65371, 11), (65382, 1), (65471, 0), (65474, 1), (65480, 0),
  (65482, 1), (65488, 0), (65490, 1), (65496, 0), (65498, 1), (65501, 0), (65504, 6), (65506, 11),
  (65509, 6), (65511, 0), (65512, 11), (65519, 0), (65529, 11), (65534, 0), (65536, 1), (65548, 0),
  (65549, 1), (65575, 0), (65576, 1), (65595, 0), (65596, 1), (65598, 0), (65599, 1), (65614, 0),
  (65616, 1), (65630, 0), (65664, 1), (65787, 0), (65792, 1), (65793, 11), (65794, 1), (65795, 0),
  (65799, 1), (65844, 0), (65847, 1), (65856, 11), (65933, 1), (65935, 0), (65936, 11), (65949, 0),
  (65952, 11), (65953, 0), (66000, 1), (66045, 9), (66046, 0), (66176, 1), (66205, 0), (66208, 1),
  (66257, 0), (66272, 9), (66273, 4), (66300, 0), (66304, 1), (66340, 0), (66349, 1), (66379, 0),
  (66384, 1), (66422, 9), (66427, 0), (66432, 1), (66462, 0), (66463, 1), (66500, 0), (66504, 1),
  (66518, 0), (66560, 1), (66718, 0), (66720, 1), (66730, 0), (66736, 1), (66772, 0), (66776, 1),
  (66812, 0), (66816, 1), (66856, 0), (66864, 1), (66916, 0), (66927, 1), (66939, 0), (66940, 1),
  (66955, 0), (66956, 1), (66963, 0), (66964, 1), (66966, 0), (66967, 1), (66978, 0), (66979, 1),
  (66994, 0), (66995, 1), (67002, 0), (67003, 1), (67005, 0), (67072, 1), (67383, 0), (67392, 1),
  (67414, 0), (67424, 1), (67432, 0), (67456, 1), (67462, 0), (67463, 1), (67505, 0), (67506, 1),
  (67515, 0), (67584, 2), (67590, 0), (67592, 2), (67593, 0), (67594, 2), (67638, 0), (67639, 2),
  (67641, 0), (67644, 2), (67645, 0), (67647, 2), (67670, 0), (67671, 2), (67743, 0), (67751, 2),
  (67760, 0), (67808, 2), (67827, 0), (67828, 2), (67830, 0), (67835, 2), (67868, 0), (67871, 11),
  (67872, 2), (67898, 0), (67903, 2), (67904, 0), (67968, 2), (68024, 0), (68028, 2), (68048, 0),
  (68050, 2), (68097, 9), (68100, 0), (68101, 9), (68103, 0), (68108, 9), (68112, 2), (68116, 0),
  (68117, 2), (68120, 0), (68121, 2), (68150, 0), (68152, 9), (68155, 0), (68159, 9), (68160, 2),
  (68169, 0), (68176, 2), (68185, 0), (68192, 2), (68256, 0), (68288, 2), (68325, 9), (68327, 0),
  (68331, 2), (68343, 0), (68352, 2), (68406, 0), (68409, 11), (68416, 2), (68438, 0), (68440, 2),
  (68467, 0), (68472, 2), (68498, 0), (68505, 2), (68509, 0), (68521, 2), (68528, 0), (68608, 2),
  (68681, 0), (68736, 2), (68787, 0), (68800, 2), (68851, 0), (68858, 2), (68864, 3), (68900, 9),
  (68904, 0), (68912, 7), (68922, 0), (69216, 7), (69247, 0), (69248, 2), (69290, 0), (69291, 9),
  (69293, 2), (69294, 0), (69296, 2), (69298, 0), (69376, 2), (69416, 0), (69424, 3), (69446, 9),
  (69457, 3), (69466, 0), (69488, 2), (69506, 9), (69510, 2), (69514, 0), (69552, 2), (69580, 0),
  (69600, 2), (69623, 0), (69632, 1), (69633, 9), (69634, 1), (69688, 9), (69703, 1), (69710, 0),
  (69714, 11), (69734, 1), (69744, 9), (69745, 1), (69747, 9), (69749, 1), (69750, 0), (69759, 9),
  (69762, 1), (69811, 9), (69815, 1), (69817, 9), (69819, 1), (69826, 9), (69827, 0), (69837, 1),
  (69838, 0), (69840, 1), (69865, 0), (69872, 1), (69882, 0), (69888, 9), (69891, 1), (69927, 9),
  (69932, 1), (69933, 9), (69941, 0), (69942, 1), (69960, 0), (69968, 1), (70003, 9), (70004, 1),
  (70007, 0), (70016, 9), (70018, 1), (70070, 9), (70079, 1), (70089, 9), (70093, 1), (70095, 9),
  (70096, 1), (70112, 0), (70113, 1), (70133, 0), (70144, 1), (70162, 0), (70163, 1), (70191, 9),
  (70194, 1), (70196, 9), (70197, 1), (70198, 9), (70200, 1), (70206, 9), (70207, 0), (70272, 1),
  (70279, 0), (70280, 1), (70281, 0), (70282, 1), (70286, 0), (70287, 1), (70302, 0), (70303, 1),
  (70314, 0), (70320, 1), (70367, 9), (70368, 1), (70371, 9), (70379, 0), (70384, 1), (70394, 0),
  (70400, 9), (70402, 1), (70404, 0), (70405, 1), (70413, 0), (70415, 1), (70417, 0), (70419, 1),
  (70441, 0), (70442, 1), (70449, 0), (70450, 1), (70452, 0), (70453, 1), (70458, 0), (70459, 9),
  (70461, 1), (70464, 9), (70465, 1), (70469, 0), (70471, 1), (70473, 0), (70475, 1), (70478, 0),
  (70480, 1), (70481, 0), (70487, 1), (70488, 0), (70493, 1), (70500, 0), (70502, 9), (70509, 0),
  (70512, 9), (70517, 0), (70656, 1), (70712, 9), (70720, 1), (70722, 9), (70725, 1), (70726, 9),
  (70727, 1), (70748, 0), (70749, 1), (70750, 9), (70751, 1), (70754, 0), (70784, 1), (70835, 9),
  (70841, 1), (70842, 9), (70843, 1), (70847, 9), (70849, 1), (70850, 9), (70852, 1), (70856, 0),
  (70864, 1), (70874, 0), (71040, 1), (71090, 9), (71094, 0), (71096, 1), (71100, 9), (71102, 1),
  (71103, 9), (71105, 1), (71132, 9), (71134, 0), (71168, 1), (71219, 9), (71227, 1), (71229, 9),
  (71230, 1), (71231, 9), (71233, 1), (71237, 0), (71248, 1), (71258, 0), (71264, 11), (71277, 0),
  (71296, 1), (71339, 9), (71340, 1), (71341, 9), (71342, 1), (71344, 9), (71350, 1), (71351, 9),
  (71352, 1), (71354, 0), (71360, 1), (71370, 0), (71424, 1), (71451, 0), (71453, 9), (71456, 1),
  (71458, 9), (71462, 1), (71463, 9), (71468, 0), (71472, 1), (71495, 0), (71680, 1), (71727, 9),
  (71736, 1), (71737, 9), (71739, 1), (71740, 0), (71840, 1), (71923, 0), (71935, 1), (71943, 0),
  (71945, 1), (71946, 0), (71948, 1), (71956, 0), (71957, 1), (71959, 0), (71960, 1), (71990, 0),
  (71991, 1), (71993, 0), (71995, 9), (71997, 1), (71998, 9), (71999, 1), (72003, 9), (72004, 1),
  (72007, 0), (72016, 1), (72026, 0), (72096, 1), (72104, 0), (72106, 1), (72148, 9), (72152, 0),
  (72154, 9), (72156, 1), (72160, 9), (72161, 1), (72165, 0), (72192, 1), (72193, 9), (72199, 1),
  (72201, 9), (72203, 1), (72243, 9), (72249, 1), (72251, 9), (72255, 1), (72263, 9), (72264, 0),
  (72272, 1), (72273, 9), (72279, 1), (72281, 9), (72284, 1), (72330, 9), (72343, 1), (72344, 9),
  (72346, 1), (72355, 0), (72368, 1), (72441, 0), (72704, 1), (72713, 0), (72714, 1), (72752, 9),
  (72759, 0), (72760, 9), (72766, 1), (72774, 0), (72784, 1), (72813, 0), (72816, 1), (72848, 0),
  (72850, 9), (72872, 0), (72873, 1), (72874, 9), (72881, 1), (72882, 9), (72884, 1), (72885, 9),
  (72887, 0), (72960, 1), (72967, 0), (72968, 1), (72970, 0), (72971, 1), (73009, 9), (73015, 0),
  (73018, 9), (73019, 0), (73020, 9), (73022, 0), (73023, 9), (73030, 1), (73031, 9), (73032, 0),
  (73040, 1), (73050, 0), (73056, 1), (73062, 0), (73063, 1), (73065, 0), (73066, 1), (73103, 0),
  (73104, 9), (73106, 0), (73107, 1), (73109, 9), (73110, 1), (73111, 9), (73112, 1), (73113, 0),
  (73120, 1), (73130, 0), (73440, 1), (73459, 9), (73461, 1), (73465, 0), (73648, 1), (73649, 0),
  (73664, 1), (73685, 11), (73693, 6), (73697, 11), (73714, 0), (73727, 1), (74650, 0), (74752, 1),
  (74863, 0), (74864, 1), (74869, 0), (74880, 1), (75076, 0), (77712, 1), (77811, 0), (77824, 1),
  (78895, 0), (78896, 1), (78905, 0), (82944, 1), (83527, 0), (92160, 1), (92729, 0), (92736, 1),
  (92767, 0), (92768, 1), (92778, 0), (92782, 1), (92863, 0), (92864, 1), (92874, 0), (92880, 1),
  (92910, 0), (92912, 9), (92917, 1), (92918, 0), (92928, 1), (92976, 9), (92983, 1), (92998, 0),
  (93008, 1), (93018, 0), (93019, 1), (93026, 0), (93027, 1), (93048, 0), (93053, 1), (93072, 0),
  (93760, 1), (93851, 0), (93952, 1), (94027, 0), (94031, 9), (94032, 1), (94088, 0), (94095, 9),
  (94099, 1), (94112, 0), (94176, 1), (94178, 11), (94179, 1), (94180, 9), (94181, 0), (94192, 1),
  (94194, 0), (94208, 1), (100344, 0), (100352, 1), (101590, 0), (101632, 1), (101641, 0),
  (110576, 1), (110580, 0), (110581, 1), (110588, 0), (110589, 1), (110591, 0), (110592, 1),
  (110883, 0), (110928, 1), (110931, 0), (110948, 1), (110952, 0), (110960, 1), (111356, 0),
  (113664, 1), (113771, 0), (113776, 1), (113789, 0), (113792, 1), (113801, 0), (113808, 1),
  (113818, 0), (113820, 1), (113821, 9), (113823, 1), (113824, 10), (113828, 0), (118528, 9),
  (118574, 0), (118576, 9), (118599, 0), (118608, 1), (118724, 0), (118784, 1), (119030, 0),
  (119040, 1), (119079, 0), (119081, 1), (119143, 9), (119146, 1), (119155, 10), (119163, 9),
  (119171, 1), (119173, 9), (119180, 1), (119210, 9), (119214, 1), (119273, 11), (119275, 0),
  (119296, 11), (119362, 9), (119365, 11), (119366, 0), (119520, 1), (119540, 0), (119552, 11),
  (119639, 0), (119648, 1), (119673, 0), (119808, 1), (119893, 0), (119894, 1), (119965, 0),
  (119966, 1), (119968, 0), (119970, 1), (119971, 0), (119973, 1), (119975, 0), (119977, 1),
  (119981, 0), (119982, 1), (119994, 0), (119995, 1), (119996, 0), (119997, 1), (120004, 0),
  (120005, 1), (120070, 0), (120071, 1), (120075, 0), (120077, 1), (120085, 0), (120086, 1),
  (120093, 0), (120094, 1), (120122, 0), (120123, 1), (120127, 0), (120128, 1), (120133, 0),
  (120134, 1), (120135, 0), (120138, 1), (120145, 0), (120146, 1), (120486, 0), (120488, 1),
  (120539, 11), (120540, 1), (120597, 11), (120598, 1), (120655, 11), (120656, 1), (120713, 11),
  (120714, 1), (120771, 11), (120772, 1), (120780, 0), (120782, 4), (120832, 1), (121344, 9),
  (121399, 1), (121403, 9), (121453, 1), (121461, 9), (121462, 1), (121476, 9), (121477, 1),
  (121484, 0), (121499, 9), (121504, 0), (121505, 9), (121520, 0), (122624, 1), (122655, 0),
  (122880, 9), (122887, 0), (122888, 9), (122905, 0), (122907, 9), (122914, 0), (122915, 9),
  (122917, 0), (122918, 9), (122923, 0), (123136, 1), (123181, 0), (123184, 9), (123191, 1),
  (123198, 0), (123200, 1), (123210, 0), (123214, 1), (123216, 0), (123536, 1), (123566, 9),
  (123567, 0), (123584, 1), (123628, 9), (123632, 1), (123642, 0), (123647, 6), (123648, 0),
  (124896, 1), (124903, 0), (124904, 1), (124908, 0), (124909, 1), (124911, 0), (124912, 1),
  (124927, 0), (124928, 2), (125125, 0), (125127, 2), (125136, 9), (125143, 0), (125184, 2),
  (125252, 9), (125259, 2), (125260, 0), (125264, 2), (125274, 0), (125278, 2), (125280, 0),
  (126065, 3), (126133, 0), (126209, 3), (126270, 0), (126464, 3), (126468, 0), (126469, 3),
  (126496, 0), (126497, 3), (126499, 0), (126500, 3), (126501, 0), (126503, 3), (126504, 0),
  (126505, 3), (126515, 0), (126516, 3), (126520, 0), (126521, 3), (126522, 0), (126523, 3),
  (126524, 0), (126530, 3), (126531, 0), (126535, 3), (126536, 0), (126537, 3), (126538, 0),
  (126539, 3), (126540, 0), (126541, 3), (126544, 0), (126545, 3), (126547, 0), (126548, 3),
  (126549, 0), (126551, 3), (126552, 0), (126553, 3), (126554, 0), (126555, 3), (126556, 0),
  (126557, 3), (126558, 0), (126559, 3), (126560, 0), (126561, 3), (126563, 0), (126564, 3),
  (126565, 0), (126567, 3), (126571, 0), (126572, 3), (126579, 0), (126580, 3), (126584, 0),
  (126585, 3), (126589, 0), (126590, 3), (126591, 0), (126592, 3), (126602, 0), (126603, 3),
  (126620, 0), (126625, 3), (126628, 0), (126629, 3), (126634, 0), (126635, 3), (126652, 0),
  (126704, 11), (126706, 0), (126976, 11), (127020, 0), (127024, 11), (127124, 0), (127136, 11),
  (127151, 0), (127153, 11), (127168, 0), (127169, 11), (127184, 0), (127185, 11), (127222, 0),
  (127232, 4), (127243, 11), (127248, 1), (127279, 11), (127280, 1), (127338, 11), (127344, 1),
  (127405, 11), (127406, 0), (127462, 1), (127491, 0), (127504, 1), (127548, 0), (127552, 1),
  (127561, 0), (127568, 1), (127570, 0), (127584, 11), (127590, 0), (127744, 11), (128728, 0),
  (128733, 11), (128749, 0), (128752, 11), (128765, 0), (128768, 11), (128884, 0), (128896, 11),
  (128985, 0), (128992, 11), (129004, 0), (129008, 11), (129009, 0), (129024, 11), (129036, 0),
  (129040, 11), (129096, 0), (129104, 11), (129114, 0), (129120, 11), (129160, 0), (129168, 11),
  (129198, 0), (129200, 11), (129202, 0), (129280, 11), (129620, 0), (129632, 11), (129646, 0),
  (129648, 11), (129653, 0), (129656, 11), (129661, 0), (129664, 11), (129671, 0), (129680, 11),
  (129709, 0), (129712, 11), (129723, 0), (129728, 11), (129734, 0), (129744, 11), (129754, 0),
  (129760, 11), (129768, 0), (129776, 11), (129783, 0), (129792, 11), (129939, 0), (129940, 11),
  (129995, 0), (130032, 4), (130042, 0), (131072, 1), (173792, 0), (173824, 1), (177977, 0),
  (177984, 1), (178206, 0), (178208, 1), (183970, 0), (183984, 1), (191457, 0), (194560, 1),
  (195102, 0), (196608, 1), (201547, 0), (917505, 10), (917506, 0), (917536, 10), (917632, 0),
  (917760, 9), (918000, 0), (983040, 1), (1048574, 0), (1048576, 1), (1114110, 0)]

end SecScan.Text
