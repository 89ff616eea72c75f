/-!
# Machine words

The unsigned integer types of the source, and strings of bytes.
-/

namespace QuickAssist

abbrev U8 := BitVec 8

abbrev U16 := BitVec 16

abbrev U32 := BitVec 32

abbrev U64 := BitVec 64

/-- Bytes in the order in which they are in memory. -/
abbrev Octets := List U8

end QuickAssist
