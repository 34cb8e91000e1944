/-!
Bytes as text: three of them are four characters of an alphabet of 64, and the
last characters are filled up.
-/

namespace SignOn.Base64

def alphabet : List Char :=
  "ABCDEFGHIJKLMNOPQRSTUVWXYZabcdefghijklmnopqrstuvwxyz0123456789+/".toList

def filler : Char := '='

/-- The character for six bits. -/
def sextet (n : Nat) : Char := alphabet[n % 64]?.getD filler

def encode : List UInt8 → List Char
  | a :: b :: c :: rest =>
    let n := (a.toNat * 256 + b.toNat) * 256 + c.toNat
    sextet (n / 262144) :: sextet (n / 4096) :: sextet (n / 64) :: sextet n :: encode rest
  | [a, b] =>
    let n := (a.toNat * 256 + b.toNat) * 4
    [sextet (n / 4096), sextet (n / 64), sextet n, filler]
  | [a] =>
    let n := a.toNat * 16
    [sextet (n / 64), sextet n, filler, filler]
  | [] => []

end SignOn.Base64
