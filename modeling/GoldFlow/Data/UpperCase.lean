import Mathlib.Init

/-! # Upper case

The full upper-case mapping of Unicode 15, character by character. ASCII has its own.
-/

namespace GoldFlow.Data

/-- Every `step`-th code point from the first to the last is moved by the same distance. -/
def upperRanges : List (Nat × Nat × Nat × Int) :=
  [ (224, 246, 1, -32), (248, 254, 1, -32), (257, 303, 2, -1), (307, 311, 2, -1), (314, 328, 2, -1),
    (331, 375, 2, -1), (378, 382, 2, -1), (387, 389, 2, -1), (417, 421, 2, -1), (436, 438, 2, -1), (462, 476, 2, -1),
    (479, 495, 2, -1), (505, 543, 2, -1), (547, 563, 2, -1), (575, 576, 1, 10815), (583, 591, 2, -1),
    (598, 599, 1, -205), (650, 651, 1, -217), (881, 883, 2, -1), (891, 893, 1, 130), (941, 943, 1, -37),
    (945, 961, 1, -32), (963, 971, 1, -32), (973, 974, 1, -63), (985, 1007, 2, -1), (1072, 1103, 1, -32),
    (1104, 1119, 1, -80), (1121, 1153, 2, -1), (1163, 1215, 2, -1), (1218, 1230, 2, -1), (1233, 1327, 2, -1),
    (1377, 1414, 1, -48), (4304, 4346, 1, 3008), (4349, 4351, 1, 3008), (5112, 5117, 1, -8), (7299, 7300, 1, -6242),
    (7681, 7829, 2, -1), (7841, 7935, 2, -1), (7936, 7943, 1, 8), (7952, 7957, 1, 8), (7968, 7975, 1, 8),
    (7984, 7991, 1, 8), (8000, 8005, 1, 8), (8017, 8023, 2, 8), (8032, 8039, 1, 8), (8048, 8049, 1, 74),
    (8050, 8053, 1, 86), (8054, 8055, 1, 100), (8056, 8057, 1, 128), (8058, 8059, 1, 112), (8060, 8061, 1, 126),
    (8112, 8113, 1, 8), (8144, 8145, 1, 8), (8160, 8161, 1, 8), (8560, 8575, 1, -16), (9424, 9449, 1, -26),
    (11312, 11359, 1, -48), (11368, 11372, 2, -1), (11393, 11491, 2, -1), (11500, 11502, 2, -1),
    (11520, 11557, 1, -7264), (42561, 42605, 2, -1), (42625, 42651, 2, -1), (42787, 42799, 2, -1),
    (42803, 42863, 2, -1), (42874, 42876, 2, -1), (42879, 42887, 2, -1), (42897, 42899, 2, -1),
    (42903, 42921, 2, -1), (42933, 42947, 2, -1), (42952, 42954, 2, -1), (42967, 42969, 2, -1),
    (43888, 43967, 1, -38864), (65345, 65370, 1, -32), (66600, 66639, 1, -40), (66776, 66811, 1, -40),
    (66967, 66977, 1, -39), (66979, 66993, 1, -39), (66995, 67001, 1, -39), (67003, 67004, 1, -39),
    (68800, 68850, 1, -64), (71872, 71903, 1, -32), (93792, 93823, 1, -32), (125218, 125251, 1, -34)]

/-- Single letters, and letters that become several. -/
def upperSingles : List (Nat × List Nat) :=
  [ (181, [924]), (255, [376]), (305, [73]), (383, [83]), (384, [579]), (392, [391]), (396, [395]), (402, [401]),
    (405, [502]), (409, [408]), (410, [573]), (414, [544]), (424, [423]), (429, [428]), (432, [431]), (441, [440]),
    (445, [444]), (447, [503]), (453, [452]), (454, [452]), (456, [455]), (457, [455]), (459, [458]), (460, [458]),
    (477, [398]), (498, [497]), (499, [497]), (501, [500]), (572, [571]), (578, [577]), (592, [11375]),
    (593, [11373]), (594, [11376]), (595, [385]), (596, [390]), (601, [399]), (603, [400]), (604, [42923]),
    (608, [403]), (609, [42924]), (611, [404]), (613, [42893]), (614, [42922]), (616, [407]), (617, [406]),
    (618, [42926]), (619, [11362]), (620, [42925]), (623, [412]), (625, [11374]), (626, [413]), (629, [415]),
    (637, [11364]), (640, [422]), (642, [42949]), (643, [425]), (647, [42929]), (648, [430]), (649, [580]),
    (652, [581]), (658, [439]), (669, [42930]), (670, [42928]), (837, [921]), (887, [886]), (940, [902]),
    (962, [931]), (972, [908]), (976, [914]), (977, [920]), (981, [934]), (982, [928]), (983, [975]), (1008, [922]),
    (1009, [929]), (1010, [1017]), (1011, [895]), (1013, [917]), (1016, [1015]), (1019, [1018]), (1231, [1216]),
    (7296, [1042]), (7297, [1044]), (7298, [1054]), (7301, [1058]), (7302, [1066]), (7303, [1122]), (7304, [42570]),
    (7545, [42877]), (7549, [11363]), (7566, [42950]), (7835, [7776]), (8126, [921]), (8165, [8172]), (8526, [8498]),
    (8580, [8579]), (11361, [11360]), (11365, [570]), (11366, [574]), (11379, [11378]), (11382, [11381]),
    (11507, [11506]), (11559, [4295]), (11565, [4301]), (42892, [42891]), (42900, [42948]), (42961, [42960]),
    (42998, [42997]), (43859, [42931]),
    (223, [83, 83]), (329, [700, 78]), (496, [74, 780]), (912, [921, 776, 769]), (944, [933, 776, 769]),
    (1415, [1333, 1362]), (7830, [72, 817]), (7831, [84, 776]), (7832, [87, 778]), (7833, [89, 778]),
    (7834, [65, 702]), (8016, [933, 787]), (8018, [933, 787, 768]), (8020, [933, 787, 769]), (8022, [933, 787, 834]),
    (8114, [8122, 921]), (8115, [913, 921]), (8116, [902, 921]), (8118, [913, 834]), (8119, [913, 834, 921]),
    (8124, [913, 921]), (8130, [8138, 921]), (8131, [919, 921]), (8132, [905, 921]), (8134, [919, 834]),
    (8135, [919, 834, 921]), (8140, [919, 921]), (8146, [921, 776, 768]), (8147, [921, 776, 769]),
    (8150, [921, 834]), (8151, [921, 776, 834]), (8162, [933, 776, 768]), (8163, [933, 776, 769]),
    (8164, [929, 787]), (8166, [933, 834]), (8167, [933, 776, 834]), (8178, [8186, 921]), (8179, [937, 921]),
    (8180, [911, 921]), (8182, [937, 834]), (8183, [937, 834, 921]), (8188, [937, 921]), (64256, [70, 70]),
    (64257, [70, 73]), (64258, [70, 76]), (64259, [70, 70, 73]), (64260, [70, 70, 76]), (64261, [83, 84]),
    (64262, [83, 84]), (64275, [1348, 1350]), (64276, [1348, 1333]), (64277, [1348, 1339]), (64278, [1358, 1350]),
    (64279, [1348, 1341])]

/-- The capital Greek letters before an iota that the small letters from `0x1f80` on have below. -/
def iotaCapital (code : Nat) : Nat :=
  (if code < 0x1f90 then 0x1f08 else if code < 0x1fa0 then 0x1f28 else 0x1f68) + code % 8

def upperCodes (code : Nat) : List Nat :=
  if 0x1f80 ≤ code ∧ code < 0x1fb0 then [iotaCapital code, 0x399]
  else match upperSingles.lookup code with
    | some codes => codes
    | none =>
      match upperRanges.find? fun (first, last, step, _) =>
          first ≤ code && code ≤ last && (code - first) % step == 0 with
      | some (_, _, _, distance) => [(code + distance).toNat]
      | none => [code]

def upperCharacter (character : Char) : List Char :=
  if character.toNat < 128 then [character.toUpper] else (upperCodes character.toNat).map Char.ofNat

end GoldFlow.Data
