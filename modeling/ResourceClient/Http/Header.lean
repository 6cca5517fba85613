/-! # HTTP headers

    Header names are compared without regard to case and are kept in lower
    case.  A name is a token of visible ASCII characters.  A value may hold
    any character but the control characters, of which the tabulator alone
    is allowed. -/

namespace ResourceClient.Http

/-- Whether a character may stand in a header name. -/
def isTokenChar (c : Char) : Bool :=
  c.isAlphanum || "!#$%&'*+-.^_\x60|~".toList.contains c

/-- A header name in lower case, if the text is one. -/
def headerName? (s : String) : Option String :=
  if s ≠ "" ∧ s.toList.all isTokenChar then some s.toLower else none

/-- Whether a character may stand in a header value. -/
def isValueChar (c : Char) : Bool := c == '\t' || (0x20 ≤ c.toNat && c.toNat != 0x7f)

/-- A header value, if the text is one. -/
def headerValue? (s : String) : Option String :=
  if s.toList.all isValueChar then some s else none

/-- Whether a header value can be read as text: tabulators and visible ASCII characters only. -/
def isVisible (s : String) : Bool :=
  s.toList.all fun c => c == '\t' || (0x20 ≤ c.toNat && c.toNat < 0x7f)

/-- A list of headers; a name may occur more than once. -/
structure Headers where
  /-- The headers in order, names in lower case. -/
  entries : List (String × String)
  deriving DecidableEq, Repr

namespace Headers

/-- No header. -/
def empty : Headers := ⟨[]⟩

/-- The first value under a lower-case name. -/
def get? (h : Headers) (name : String) : Option String := h.entries.lookup name

/-- Adds a header after those with the same name. -/
def append (h : Headers) (name value : String) : Headers := ⟨h.entries ++ [(name, value)]⟩

/-- Sets the only header of a name. -/
def set (h : Headers) (name value : String) : Headers :=
  ⟨h.entries.filter (·.1 != name) ++ [(name, value)]⟩

/-- The names, each once, with all their values in order. -/
def grouped (h : Headers) : List (String × List String) :=
  (h.entries.map (·.1)).eraseDups.map fun name =>
    (name, (h.entries.filter (·.1 == name)).map (·.2))

end Headers

end ResourceClient.Http
