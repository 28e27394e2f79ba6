import JsonExpr.Text.Boundary

/-!
# Boundaries for the division of text

What the classes by which text is divided into characters, words and sentences add to or take from
the general categories and the other properties.
-/

set_option autoImplicit false
set_option maxRecDepth 4000

namespace JsonExpr.Text.BreakTable

/-- Characters that a cluster starts with, beside the prepended marks. -/
def prepending : Boundaries := [
  3406, 3407, 70082, 70084, 70609, 70610, 71999, 72000, 72001, 72002, 72250, 72251, 72324, 72330,
  73030, 73031, 73474, 73475]

/-- Spacing marks that do not belong to the cluster before them. -/
def standingMark : Boundaries := [
  4139, 4141, 4152, 4153, 4194, 4197, 4199, 4206, 4227, 4228, 4231, 4237, 4239, 4240, 4250, 4253,
  6753, 6754, 6755, 6757, 43643, 43644, 43645, 43646, 71456, 71458]

/-- Letters of scripts that are written without spaces between words. -/
def complexContext : Boundaries := [
  3585, 3643, 3648, 3663, 3713, 3715, 3716, 3717, 3718, 3723, 3724, 3748, 3749, 3750, 3751, 3774,
  3776, 3781, 3782, 3783, 3784, 3791, 3804, 3808, 4096, 4160, 4176, 4240, 4250, 4256, 6016, 6100,
  6103, 6104, 6108, 6110, 6480, 6510, 6512, 6517, 6528, 6572, 6576, 6602, 6618, 6619, 6622, 6624,
  6688, 6751, 6752, 6781, 6816, 6830, 43488, 43504, 43514, 43519, 43616, 43715, 43739, 43744,
  71424, 71451, 71453, 71468, 71482, 71484, 71487, 71495]

/-- Signs that stand inside words as letters do. -/
def letterLike : Boundaries := [
  706, 710, 722, 728, 734, 736, 741, 748, 749, 750, 751, 768, 1370, 1373, 1374, 1375, 1418, 1419,
  1523, 1524, 1807, 1808, 42760, 42775, 42784, 42786, 42889, 42891, 43867, 43868]

/-- Signs between the letters of a word. -/
def midLetter : Boundaries := [
  58, 59, 183, 184, 903, 904, 1375, 1376, 1524, 1525, 8231, 8232, 65043, 65044, 65109, 65110,
  65306, 65307]

/-- Signs between the digits of a number. -/
def midNumber : Boundaries := [
  44, 45, 59, 60, 894, 895, 1417, 1418, 1548, 1550, 1644, 1645, 2040, 2041, 8260, 8261, 65040,
  65041, 65044, 65045, 65104, 65105, 65108, 65109, 65292, 65293, 65307, 65308]

/-- Signs between letters or digits. -/
def midNumberOrLetter : Boundaries := [
  46, 47, 8216, 8218, 8228, 8229, 65106, 65107, 65287, 65288, 65294, 65295]

/-- Quotation marks that neither open nor close by category. -/
def quote : Boundaries := [
  34, 35, 39, 40, 10075, 10081, 11776, 11778, 11782, 11785, 11787, 11788, 128630, 128633]

/-- Signs after which a sentence goes on. -/
def sentenceContinue : Boundaries := [
  44, 46, 58, 60, 894, 895, 1373, 1374, 1548, 1550, 2040, 2041, 6146, 6147, 6152, 6153, 8211, 8213,
  12289, 12290, 65040, 65042, 65043, 65045, 65073, 65075, 65104, 65106, 65108, 65110, 65112, 65113,
  65123, 65124, 65292, 65294, 65306, 65308, 65380, 65381]

end JsonExpr.Text.BreakTable
