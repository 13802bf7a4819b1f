/-!
# Widths

The numbers of so many bits are those below a power of two, which stands here written out. Where
a sign is kept too, one bit goes to it.
-/

namespace LeaseLock.Width

/-- The power of two for 8 bits. -/
abbrev bits8 : Nat := 256

/-- The power of two for 32 bits. -/
abbrev bits32 : Nat := 4294967296

/-- The power of two for 64 bits of which one is the sign. -/
abbrev bits63 : Nat := 9223372036854775808

/-- The power of two for 64 bits. -/
abbrev bits64 : Nat := 18446744073709551616

end LeaseLock.Width
