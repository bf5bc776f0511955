import FileCatalog.Span

/-!
# Layout formats

A stored layout starts with a number that tells in which of six formats the rest is. The formats
keep the layout's generation at different places, or do not keep it at all.
-/

namespace FileCatalog

inductive Layout.Format where
  | plain
  | pooled
  /-- A plain layout on an explicit list of targets. -/
  | listed
  | composite
  /-- A composite layout whose components grow on demand. -/
  | extending
  /-- A layout that is interpreted by other software. -/
  | foreign
  deriving DecidableEq, Repr

namespace Layout.Format

def all : List Format := [plain, pooled, listed, composite, extending, foreign]

def magic : Format → UInt32
  | plain => 0x0BD10BD0
  | pooled => 0x0BD30BD0
  | listed => 0x0BD50BD0
  | composite => 0x0BD60BD0
  | extending => 0x0BD80BD0
  | foreign => 0x0BD70BD0

def name : Format → String
  | plain => "LOV_USER_MAGIC_V1"
  | pooled => "LOV_USER_MAGIC_V3"
  | listed => "LOV_USER_MAGIC_SPECIFIC"
  | composite => "LOV_USER_MAGIC_COMP_V1"
  | extending => "LOV_USER_MAGIC_SEL"
  | foreign => "LOV_USER_MAGIC_FOREIGN"

def ofMagic? (magic : UInt32) : Option Format := all.find? fun f => f.magic = magic

/-- Where the generation is stored. -/
def generationField : Format → Option Span
  | plain | pooled | listed => some ⟨30, 2⟩
  | composite | extending => some ⟨8, 4⟩
  | foreign => none

theorem ofMagic?_magic (f : Format) : ofMagic? f.magic = some f := by cases f <;> decide

theorem magic_of_ofMagic? {m : UInt32} {f : Format} (h : ofMagic? m = some f) : f.magic = m := by
  simpa using List.find?_some h

end Layout.Format

end FileCatalog
