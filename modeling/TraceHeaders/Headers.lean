import TraceHeaders.Dict
import TraceHeaders.Text.LowerCase
import TraceHeaders.Text.Utf8

/-! Headers are read through a view: three lookups that ignore the letter case of names. -/

namespace TraceHeaders

abbrev Header := Text × Text

structure HeaderView where
  get? : Text → Option Text
  getAll : Text → List Text
  names : List Text

structure Snapshot where
  headers : List Header
  deriving Repr, DecidableEq

namespace Snapshot

def ofBytes (headers : List (Text × List UInt8)) : Snapshot :=
  ⟨headers.map fun h => (h.1, Text.ofBytesLossy h.2)⟩

def get? (s : Snapshot) (name : Text) : Option Text :=
  (s.headers.find? fun h => Text.sameName h.1 name).map (·.2)

def getAll (s : Snapshot) (name : Text) : List Text :=
  (s.headers.filter fun h => Text.sameName h.1 name).map (·.2)

def names (s : Snapshot) : List Text := (s.headers.map (·.1)).eraseDupsBy Text.sameName

def view (s : Snapshot) : HeaderView := ⟨s.get?, s.getAll, s.names⟩

theorem get?_eq_head? (s : Snapshot) (name : Text) : s.get? name = (s.getAll name).head? := by
  simp [get?, getAll, List.head?_filter]

end Snapshot

abbrev HeaderMap := Dict Text

namespace HeaderMap

def set (m : HeaderMap) (h : Header) : HeaderMap := m.insert (Text.lower h.1) h.2

/-- The value under the lower-case name, or under a name that differs in the case of ASCII
letters only. -/
def get? (m : HeaderMap) (name : Text) : Option Text :=
  (Dict.get? m (Text.lower name)).or
    ((m.entries.find? fun e => Text.sameName e.1 name).map (·.2))

def getAll (m : HeaderMap) (name : Text) : List Text := (get? m name).toList

def view (m : HeaderMap) : HeaderView := ⟨get? m, getAll m, m.keys⟩

def setAll (m : HeaderMap) (hs : List Header) : HeaderMap := hs.foldl set m

end HeaderMap

abbrev ByteMap := Dict (List UInt8)

namespace ByteMap

def set (m : ByteMap) (h : Header) : ByteMap := m.insert (Text.lower h.1) (Text.bytes h.2)

def setAll (m : ByteMap) (hs : List Header) : ByteMap := hs.foldl set m

end ByteMap

structure Stream (β : Type) where
  rest : Option (List (Text × β))
  deriving Repr, DecidableEq

namespace Stream

variable {β : Type}

def ofList (headers : List (Text × β)) : Stream β := ⟨some headers⟩

def isConsumed (s : Stream β) : Bool := s.rest.isNone

def walk (s : Stream β) : List (Text × β) × Stream β := (s.rest.getD [], ⟨none⟩)

end Stream

end TraceHeaders
