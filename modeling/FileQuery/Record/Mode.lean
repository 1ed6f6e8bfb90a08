/-!
# Permission bits

The nine permission bits of a file and their text: read, write and execute for the owner, the
group and everyone else, with a dash for each bit that is not set.
-/

namespace FileQuery

structure Mode where
  bits : BitVec 9
  deriving DecidableEq, Repr

namespace Mode

/-- The permission bits of a raw mode word; the file type and the special bits are dropped. -/
def ofRaw (raw : UInt32) : Mode where
  bits := raw.toBitVec.setWidth 9

def letters : List Char := "rwxrwxrwx".toList

/-- The nine letters of the bits that are set, with dashes for the others. -/
def renderChars (mode : Mode) : List Char :=
  letters.mapIdx fun index letter => if mode.bits.getMsbD index then letter else '-'

/-- The nine letters of the bits that are set, with dashes for the others. -/
def render (mode : Mode) : String :=
  String.ofList mode.renderChars

end Mode

end FileQuery
