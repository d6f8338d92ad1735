import HeadlessDesktop.Text.Blank
import HeadlessDesktop.Text.Quoted

/-! Text from outside. It is known by its bytes, some of which may be part of no character. -/

namespace HeadlessDesktop.Text

@[ext]
structure Raw where
  bytes : Bytes
deriving DecidableEq, Repr

namespace Raw

def text (value : String) : Raw := ⟨encodeUtf8 value⟩

instance : Coe String Raw := ⟨text⟩

instance : Inhabited Raw := ⟨text ""⟩

instance : Append Raw := ⟨fun first second => ⟨first.bytes ++ second.bytes⟩⟩

@[simp] theorem bytes_text (value : String) : (text value).bytes = encodeUtf8 value := rfl

@[simp] theorem bytes_append (first second : Raw) :
    (first ++ second).bytes = first.bytes ++ second.bytes := rfl

/-- Each byte that is part of no character is replaced. -/
def shown (raw : Raw) : String := decodeUtf8 raw.bytes

/-- The text that the bytes spell, if they spell one. -/
def text? (raw : Raw) : Option String :=
  if raw = text raw.shown then some raw.shown else none

def quoted (raw : Raw) : String := quotedBytes raw.bytes

/-- A byte that is part of no character is no blank. -/
def isBlank (raw : Raw) : Bool := raw.text?.any allBlank

def join (raws : List Raw) : Raw := ⟨raws.flatMap bytes⟩

end Raw

end HeadlessDesktop.Text
