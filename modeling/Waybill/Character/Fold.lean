import Waybill.Character.CodeSet
import Waybill.Text.LetterCase

/-!
# Texts without regard to case

Characters that differ in case only form a group: a capital and its small letter as a rule, and
sometimes more, such as the two small forms of sigma and its capital. Disregarding case, each member
of a group stands for all of them. A group is known by its least member.

## Main definitions

* `Waybill.Fold.groups` — the groups with more than one member.
* `Waybill.Fold.close` — a set with all members of the groups that it meets.
-/

namespace Waybill.Fold

/-- Members of groups that are not the least one: for each run its distance from the start of the
one before, a number for its length and stride, and the distance of the least members. -/
def packedMembers : List String := [
  "Z1XIXVZVXCXVOCXV9XF1XI517F1HXD1XD0dH25150oN4315014016017018517015013014315014018011032011032011",
  "032F1F0aT2H1J0110320110c110ZF2X71X70e33H1P0110g550110i5491C0j310iR22iP30iJ20iL50iP30iT50j110j56",
  "0j530j930jBB0jJ30jJ50jJ10a912jH20aD60jLcV31601X20b730XkDG0YB14Y94EXV80d712XV20XmD18XV50XT1GXV90",
  "ZV12ZT30ZR10ZH40YT10ZB10F2N1N0bB10aV20d710bN10bV30110D20124e3XJXUXVX0UaVHX11XAXL1XND1D0T2YV1aGY",
  "AYVZqNAFYa80icR10icP10ic712ic320ic510ibN10iY93016YKbxVXD4bxVg4aL1aQ0ZL30kxT3YV1Z7EFGAFGEFGEFGAF",
  "H7FFEFX0EFGEFGEFG2F22aJ20H20kdHA6bB40H70ka552F22c790kZ552F22cV20DC2dV22dR20HfA0ktP40mjT10mcBX30",
  "XNX2UVK01wCXIXJXx0YUYVXH0110q*D10dkB10q+D10rYL10rYF25150rXN10q*P10rXT10rXR30130182rZT3Z31ZB3170",
  "1DYAkbVX70kbV60kbV+eK9190Yay310Yay52X11XKR1b2D1GXT1Y73130YbW7291D0110YooF4316J1J0Yoq710YoqT10Yo",
  "qL10Yoq110Yoq720Yon310YooJ10Yon93F1F0YV10Yoq510YbZF23130YosD2F1F0Ypa1Q01wT0XvVTaUYhyVpyM01XXRXI",
  "XVXd7YEYFbGY6YFbVKYDCSYDGCYD82YDXu5Z4ZVbGXAXVYwGXUXVrj0XUXVYRXGXL+p7Y2Y3"]

/-- The members of a run, each with the least member of its group. -/
def runMembers (r : CaseRun) : List (Nat × Nat) :=
  (List.range ((r.last - r.first) / r.stride + 1)).map fun i =>
    let n := r.first + i * r.stride
    ((r.distance + (n : Int)).toNat, n)

/-- The least member of a group and any other, in rising order of the least members. -/
def members : List (Nat × Nat) :=
  ((unpackRuns 0 (Packed.numbers packedMembers)).flatMap runMembers).mergeSort fun a b =>
    a.1 < b.1 || (a.1 == b.1 && a.2 ≤ b.2)

/-- Groups from pairs of a least member and another, in rising order. -/
def gather : List (Nat × Nat) → List (List Nat) → List (List Nat)
  | [], groups => groups.reverse
  | (least, n) :: rest, (first :: others) :: groups =>
    if first == least then gather rest ((first :: n :: others) :: groups)
    else gather rest ([least, n] :: (first :: others) :: groups)
  | (least, n) :: rest, groups => gather rest ([least, n] :: groups)

/-- The groups with more than one member. -/
def groups : List (List Nat) := gather members []

/-- The set with all members, among the `known` ones, of the groups that it meets. -/
def close (known s : CodeSet) : CodeSet :=
  let met := groups.filter fun group => group.any fun n => s.contains n && known.contains n
  s.union (.ofRising (met.flatten.filter fun n => known.contains n && !s.contains n).mergeSort)

end Waybill.Fold
