-- Audio streams are sent to multicast addresses. The last two of the four
-- numbers of such an address make up the number of the stream.
import Patchbay.Text.Fields
import Patchbay.Text.Numeral

namespace Patchbay

/-- The number of the stream sent to an address: 256 times the third number plus the
fourth. An address without four parts, or whose third number is missing or above 127,
or whose fourth is missing, has stream number 0. The sum is one of words of 32 bits, and
wraps where the fourth number is too large for it; a build that checks sums stops there. -/
def streamNumber (address : String) : UInt32 :=
  match Text.fields '.' address with
  | [_, _, third, fourth] =>
    match Numeral.word? third, Numeral.word? fourth with
    | some t, some f => if t ≤ 127 then 256 * t + f else 0
    | _, _ => 0
  | _ => 0

end Patchbay
