import RpcRouting.Text.Combining
import RpcRouting.Text.Unassigned
/-! Which characters do not show as themselves: those without a shape, marks that combine with the
character before them, and numbers that stand for no character. -/
namespace RpcRouting.Text

/-- Controls, formats, fillers, characters for private use, and separators other than the space. -/
def shapelessRanges : List (Nat × Nat) :=
  [(0x0, 0x1F), (0x7F, 0xA0), (0xAD, 0xAD), (0x600, 0x605), (0x61C, 0x61C), (0x6DD, 0x6DD),
   (0x70F, 0x70F), (0x890, 0x891), (0x8E2, 0x8E2), (0x115F, 0x1160), (0x1680, 0x1680),
   (0x180E, 0x180E), (0x2000, 0x200F), (0x2028, 0x202F), (0x205F, 0x2064), (0x2066, 0x206F),
   (0x3000, 0x3000), (0x3164, 0x3164), (0xE000, 0xF8FF), (0xFEFF, 0xFEFF), (0xFFA0, 0xFFA0),
   (0xFFF9, 0xFFFB), (0x110BD, 0x110BD), (0x110CD, 0x110CD), (0x13430, 0x1343F), (0x1BCA0, 0x1BCA3),
   (0x1D173, 0x1D17A), (0xE0001, 0xE0001), (0xE0020, 0xE007F), (0xF0000, 0xFFFFD),
   (0x100000, 0x10FFFD)]

theorem ascending_shapelessRanges : ascendingFrom 0 shapelessRanges = true := by
  decide

def isShapeless (n : Nat) : Bool := inRanges shapelessRanges n

theorem isShapeless_iff (n : Nat) :
    isShapeless n = true ↔ ∃ range ∈ shapelessRanges, range.1 ≤ n ∧ n ≤ range.2 :=
  inRanges_iff ascending_shapelessRanges n

/-- Whether a character does not show as itself. -/
def isHidden (c : Char) : Bool :=
  isShapeless c.toNat || isCombining c.toNat || isUnassigned c.toNat

/-- The tables are searched for what they hold. -/
theorem isHidden_iff (c : Char) : isHidden c = true ↔
    ∃ range ∈ shapelessRanges ++ combiningRanges ++ unassignedRanges,
      range.1 ≤ c.toNat ∧ c.toNat ≤ range.2 := by
  simp only [isHidden, Bool.or_eq_true, isShapeless_iff, isCombining_iff, isUnassigned_iff,
    List.mem_append, or_and_right, exists_or]

end RpcRouting.Text
