import Forwarding.Text.Alphanumeric

/-! Which characters a name of a script is made of.

A name starts with a letter or an underscore and goes on with letters, digits and marks. Of the
alphanumeric characters above ASCII only letters, letter-like numerals and decimal digits count; marks
are the other characters that Unicode 14 admits inside an identifier.
-/

set_option autoImplicit false

namespace Forwarding.Text

/-- Code points of numerals that are neither letters nor decimal digits. -/
def numeralBlocks : List (List (Nat × Nat)) := [
  [
    (178, 179), (185, 185), (188, 190), (890, 890), (2548, 2553), (2930, 2935), (3056, 3058),
    (3192, 3198), (3416, 3422), (3440, 3448), (3635, 3635), (3763, 3763), (3882, 3891),
    (4969, 4988), (6128, 6137), (6618, 6618), (8304, 8304), (8308, 8313), (8320, 8329),
    (8528, 8543), (8585, 8585), (9312, 9371), (9450, 9471), (10102, 10131), (11517, 11517),
    (11823, 11823), (12690, 12693), (12832, 12841), (12872, 12879), (12881, 12895), (12928, 12937),
    (12977, 12991), (43056, 43061), (64606, 64611), (65018, 65019), (65136, 65136), (65138, 65138),
    (65140, 65140), (65142, 65142), (65144, 65144), (65146, 65146), (65148, 65148), (65150, 65150),
    (65438, 65439), (65799, 65843), (65909, 65912), (65930, 65931), (66273, 66299), (66336, 66339),
    (67672, 67679), (67705, 67711), (67751, 67759), (67835, 67839), (67862, 67867), (68028, 68029),
    (68032, 68047), (68050, 68095), (68160, 68168), (68221, 68222), (68253, 68255)],
  [
    (68331, 68335), (68440, 68447), (68472, 68479), (68521, 68527), (68858, 68863), (69216, 69246),
    (69405, 69414), (69457, 69460), (69573, 69579), (69714, 69733), (70113, 70132), (71482, 71483),
    (71914, 71922), (72794, 72812), (73664, 73684), (93019, 93025), (93824, 93846),
    (119520, 119539), (119648, 119672), (125127, 125135), (126065, 126123), (126125, 126127),
    (126129, 126132), (126209, 126253), (126255, 126269), (127232, 127244)]]

/-- Code points that can stand inside a name, letters and decimal digits left out. -/
def markBlocks : List (List (Nat × Nat)) := [
  [
    (183, 183), (768, 879), (903, 903), (1155, 1159), (1425, 1469), (1471, 1471), (1473, 1474),
    (1476, 1477), (1479, 1479), (1552, 1562), (1611, 1631), (1648, 1648), (1750, 1756),
    (1759, 1764), (1767, 1768), (1770, 1773), (1809, 1809), (1840, 1866), (1958, 1968),
    (2027, 2035), (2045, 2045), (2070, 2073), (2075, 2083), (2085, 2087), (2089, 2093),
    (2137, 2139), (2200, 2207), (2250, 2273), (2275, 2307), (2362, 2364), (2366, 2383),
    (2385, 2391), (2402, 2403), (2433, 2435), (2492, 2492), (2494, 2500), (2503, 2504),
    (2507, 2509), (2519, 2519), (2530, 2531), (2558, 2558), (2561, 2563), (2620, 2620),
    (2622, 2626), (2631, 2632), (2635, 2637), (2641, 2641), (2672, 2673), (2677, 2677),
    (2689, 2691), (2748, 2748), (2750, 2757), (2759, 2761), (2763, 2765), (2786, 2787),
    (2810, 2815), (2817, 2819), (2876, 2876), (2878, 2884), (2887, 2888)],
  [
    (2891, 2893), (2901, 2903), (2914, 2915), (2946, 2946), (3006, 3010), (3014, 3016),
    (3018, 3021), (3031, 3031), (3072, 3076), (3132, 3132), (3134, 3140), (3142, 3144),
    (3146, 3149), (3157, 3158), (3170, 3171), (3201, 3203), (3260, 3260), (3262, 3268),
    (3270, 3272), (3274, 3277), (3285, 3286), (3298, 3299), (3328, 3331), (3387, 3388),
    (3390, 3396), (3398, 3400), (3402, 3405), (3415, 3415), (3426, 3427), (3457, 3459),
    (3530, 3530), (3535, 3540), (3542, 3542), (3544, 3551), (3570, 3571), (3633, 3633),
    (3635, 3642), (3655, 3662), (3761, 3761), (3763, 3772), (3784, 3789), (3864, 3865),
    (3893, 3893), (3895, 3895), (3897, 3897), (3902, 3903), (3953, 3972), (3974, 3975),
    (3981, 3991), (3993, 4028), (4038, 4038), (4139, 4158), (4182, 4185), (4190, 4192),
    (4194, 4196), (4199, 4205), (4209, 4212), (4226, 4237), (4239, 4239), (4250, 4253)],
  [
    (4957, 4959), (4969, 4977), (5906, 5909), (5938, 5940), (5970, 5971), (6002, 6003),
    (6068, 6099), (6109, 6109), (6155, 6157), (6159, 6159), (6313, 6313), (6432, 6443),
    (6448, 6459), (6618, 6618), (6679, 6683), (6741, 6750), (6752, 6780), (6783, 6783),
    (6832, 6845), (6847, 6862), (6912, 6916), (6964, 6980), (7019, 7027), (7040, 7042),
    (7073, 7085), (7142, 7155), (7204, 7223), (7376, 7378), (7380, 7400), (7405, 7405),
    (7412, 7412), (7415, 7417), (7616, 7679), (8255, 8256), (8276, 8276), (8400, 8412),
    (8417, 8417), (8421, 8432), (11503, 11505), (11647, 11647), (11744, 11775), (12330, 12335),
    (12441, 12442), (42607, 42607), (42612, 42621), (42654, 42655), (42736, 42737), (43010, 43010),
    (43014, 43014), (43019, 43019), (43043, 43047), (43052, 43052), (43136, 43137), (43188, 43205),
    (43232, 43249), (43263, 43263), (43302, 43309), (43335, 43347), (43392, 43395), (43443, 43456)],
  [
    (43493, 43493), (43561, 43574), (43587, 43587), (43596, 43597), (43643, 43645), (43696, 43696),
    (43698, 43700), (43703, 43704), (43710, 43711), (43713, 43713), (43755, 43759), (43765, 43766),
    (44003, 44010), (44012, 44013), (64286, 64286), (65024, 65039), (65056, 65071), (65075, 65076),
    (65101, 65103), (65343, 65343), (65438, 65439), (66045, 66045), (66272, 66272), (66422, 66426),
    (68097, 68099), (68101, 68102), (68108, 68111), (68152, 68154), (68159, 68159), (68325, 68326),
    (68900, 68903), (69291, 69292), (69446, 69456), (69506, 69509), (69632, 69634), (69688, 69702),
    (69744, 69744), (69747, 69748), (69759, 69762), (69808, 69818), (69826, 69826), (69888, 69890),
    (69927, 69940), (69957, 69958), (70003, 70003), (70016, 70018), (70067, 70080), (70089, 70092),
    (70094, 70095), (70188, 70199), (70206, 70206), (70367, 70378), (70400, 70403), (70459, 70460),
    (70462, 70468), (70471, 70472), (70475, 70477), (70487, 70487), (70498, 70499), (70502, 70508)],
  [
    (70512, 70516), (70709, 70726), (70750, 70750), (70832, 70851), (71087, 71093), (71096, 71104),
    (71132, 71133), (71216, 71232), (71339, 71351), (71453, 71467), (71724, 71738), (71984, 71989),
    (71991, 71992), (71995, 71998), (72000, 72000), (72002, 72003), (72145, 72151), (72154, 72160),
    (72164, 72164), (72193, 72202), (72243, 72249), (72251, 72254), (72263, 72263), (72273, 72283),
    (72330, 72345), (72751, 72758), (72760, 72767), (72850, 72871), (72873, 72886), (73009, 73014),
    (73018, 73018), (73020, 73021), (73023, 73029), (73031, 73031), (73098, 73102), (73104, 73105),
    (73107, 73111), (73459, 73462), (92912, 92916), (92976, 92982), (94031, 94031), (94033, 94087),
    (94095, 94098), (94180, 94180), (94192, 94193), (113821, 113822), (118528, 118573),
    (118576, 118598), (119141, 119145), (119149, 119154), (119163, 119170), (119173, 119179),
    (119210, 119213), (119362, 119364), (121344, 121398), (121403, 121452), (121461, 121461),
    (121476, 121476), (121499, 121503), (121505, 121519)],
  [
    (122880, 122886), (122888, 122904), (122907, 122913), (122915, 122916), (122918, 122922),
    (123184, 123190), (123566, 123566), (123628, 123631), (125136, 125142), (125252, 125258),
    (917760, 917999)]]

def isWithin (blocks : List (List (Nat × Nat))) (c : Char) : Bool :=
  blocks.any fun ranges => ranges.any fun r => r.1 ≤ c.toNat && c.toNat ≤ r.2

def isNameStart (c : Char) : Bool :=
  if c.toNat < 128 then c.isAlpha || c == '_'
  else
    (isAlphanumeric c && !isDecimalDigit c && !isWithin numeralBlocks c) ||
      c == '\u2118' || c == '\u212e' || c == '\u1885' || c == '\u1886'

def isNameRest (c : Char) : Bool := isNameStart c || isDecimalDigit c || isWithin markBlocks c

end Forwarding.Text
