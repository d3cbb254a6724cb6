import ProjectNeon.Runtime

/-!
# `sscanf(addrStr, "%255[^:]:%d", host, &port)`

Both `neonClientConnect` and `neonHostNew` split the relay address with this one call and accept it
when it returns `2`.  The model follows the C standard's reading of the three directives
(C11 7.21.6.2):

* `%255[^:]` does not skip white space, takes the longest run of at most 255 bytes other than `:`,
  and fails (a matching failure, or an input failure on empty input) when that run is empty;
* the ordinary character `:` must be the next byte;
* `%d` skips white space, then takes an optional sign and the longest run of decimal digits, at least
  one, and leaves whatever follows unread.

The return value counts the assignments made, `EOF` (`-1`) for an input failure before the first.
A value of `%d` outside the range of `int` is undefined in C; the model stores what glibc stores on an
LP64 target: `strtol` saturates to `long`, and the store to `int` keeps the low 32 bits.
-/

namespace ProjectNeon.Sscanf

/-- `isspace` in the C locale. -/
def isSpace (b : UInt8) : Bool := b == 32 || (9 ≤ b && b ≤ 13)

/-- `isdigit`. -/
def isDigit (b : UInt8) : Bool := 48 ≤ b && b ≤ 57

/-- The value of a run of decimal digits. -/
def digitsValue : List UInt8 → Nat → Nat
  | [], acc => acc
  | d :: ds, acc => digitsValue ds (10 * acc + (d.toNat - 48))

/-- The `int` glibc's `%d` stores for a converted value: `strtol` saturates it to `LONG_MIN` ..
`LONG_MAX` (`-2^63` .. `2^63 - 1`), and the store keeps the low 32 bits. -/
def storeInt (v : Int) : JInt :=
  JInt.ofInt (max (-9223372036854775808) (min v 9223372036854775807))

/-- The optional sign of `%d`: whether it is `-`, and the bytes after it. -/
def signSplit : List UInt8 → Bool × List UInt8
  | b :: r => if b = 45 then (true, r) else if b = 43 then (false, r) else (false, b :: r)
  | [] => (false, [])

/-- `%d` once white space is skipped: the value, or `none` when no digit follows the sign. -/
def scanDecimal (s : List UInt8) : Option Int :=
  let ds := (signSplit s).2.takeWhile isDigit
  if ds = [] then none
  else
    let v : Int := digitsValue ds 0
    some (if (signSplit s).1 then -v else v)

/-- The host field `%255[^:]` takes. -/
def hostField (s : List UInt8) : List UInt8 := (s.takeWhile (· != 58)).take 255

/-- The host field of a C string is a C string. -/
def hostFieldCString (s : CString) : CString :=
  ⟨hostField s.bytes, fun h => s.nul_free
    ((List.takeWhile_sublist _).subset (List.mem_of_mem_take h))⟩

/-- `sscanf(addrStr, "%255[^:]:%d", host, &port)`: the count it returns, with what `host` and `port`
then hold.  They are read only when the count is `2`; otherwise they stand for whatever the
uninitialised buffers held, here the host field and `0`. -/
def sscanfHostPort (s : CString) : Int × CString × JInt :=
  if s.bytes = [] then (-1, hostFieldCString s, 0)
  else if hostField s.bytes = [] then (0, hostFieldCString s, 0)
  else
    match s.bytes.drop (hostField s.bytes).length with
    | b :: rest =>
      if b = 58 then
        match scanDecimal (rest.dropWhile isSpace) with
        | some v => (2, hostFieldCString s, storeInt v)
        | none => (1, hostFieldCString s, 0)
      else (1, hostFieldCString s, 0)
    | [] => (1, hostFieldCString s, 0)

end ProjectNeon.Sscanf
