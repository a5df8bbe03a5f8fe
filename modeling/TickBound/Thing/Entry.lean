import TickBound.Thing.Kind

/-!
# Entries of kinds

What a kind keeps under a name: operations of its things, what its things say of themselves, and a few
plain values. An operation comes with a description and with the list of what it takes.
-/

namespace TickBound

namespace Thing

/-- What an entry is for the things of the kind that keeps it. -/
inductive Role where
  /-- An operation that has a sign or a place in the language of expressions. -/
  | special
  | ordinary
  /-- An operation of the kind. -/
  | ofKind
  /-- An operation that needs no thing. -/
  | free
  /-- The operation that makes things of the kind. -/
  | maker
  /-- What a thing says of itself and works out for that. -/
  | computed
  /-- What a thing holds of itself. -/
  | held
  /-- The description of the kind. -/
  | description
  /-- Nothing, so that what other kinds keep under the name does not count. -/
  | absent
  deriving DecidableEq

structure Entry where
  name : String
  role : Role
  /-- What is said of the entry. -/
  wording : Option String
  /-- What the operation takes. -/
  signature : Option String
  deriving DecidableEq

namespace Entry

/-- Lines as one text; none of them are no text. -/
def linesText? (lines : List String) : Option String :=
  if lines.isEmpty then none else some ("\n".intercalate lines)

def ordinary (name : String) (signature : Option String) (lines : List String) : Entry :=
  ⟨name, .ordinary, linesText? lines, signature⟩

def ofKind (name : String) (signature : Option String) (lines : List String) : Entry :=
  ⟨name, .ofKind, linesText? lines, signature⟩

def free (name : String) (signature : Option String) (lines : List String) : Entry :=
  ⟨name, .free, linesText? lines, signature⟩

def maker : Entry :=
  ⟨"__new__", .maker,
    some "Create and return a new object.  See help(type) for accurate signature.",
    some "($type, *args, **kwargs)"⟩

def computed (name : String) (wording : Option String := none) : Entry :=
  ⟨name, .computed, wording, none⟩

def held (name : String) : Entry :=
  ⟨name, .held, none, none⟩

/-- What a kind says of itself as a whole. -/
def description (lines : List String := []) : Entry :=
  ⟨"__doc__", .description, linesText? lines, none⟩

def absent (name : String) : Entry :=
  ⟨name, .absent, none, none⟩

/-! ## Special operations -/

/-- The special operations that take the same, with what is said of each. -/
def specialGroups : List (String × List (String × String)) :=
  [("($self, /)", [
      ("__repr__", "Return repr(self)."),
      ("__hash__", "Return hash(self)."),
      ("__str__", "Return str(self)."),
      ("__iter__", "Implement iter(self)."),
      ("__len__", "Return len(self)."),
      ("__neg__", "-self"),
      ("__pos__", "+self"),
      ("__abs__", "abs(self)"),
      ("__bool__", "True if self else False"),
      ("__invert__", "~self"),
      ("__int__", "int(self)"),
      ("__float__", "float(self)"),
      ("__index__",
        "Return self converted to an integer, if self is suitable for use as an index into a list.")]),
    ("($self, name, /)", [
      ("__getattribute__", "Return getattr(self, name)."),
      ("__delattr__", "Implement delattr(self, name).")]),
    ("($self, value, /)", [
      ("__lt__", "Return self<value."),
      ("__le__", "Return self<=value."),
      ("__eq__", "Return self==value."),
      ("__ne__", "Return self!=value."),
      ("__gt__", "Return self>value."),
      ("__ge__", "Return self>=value."),
      ("__mod__", "Return self%value."),
      ("__rmod__", "Return value%self."),
      ("__add__", "Return self+value."),
      ("__mul__", "Return self*value."),
      ("__rmul__", "Return value*self."),
      ("__radd__", "Return value+self."),
      ("__sub__", "Return self-value."),
      ("__rsub__", "Return value-self."),
      ("__divmod__", "Return divmod(self, value)."),
      ("__rdivmod__", "Return divmod(value, self)."),
      ("__lshift__", "Return self<<value."),
      ("__rlshift__", "Return value<<self."),
      ("__rshift__", "Return self>>value."),
      ("__rrshift__", "Return value>>self."),
      ("__and__", "Return self&value."),
      ("__rand__", "Return value&self."),
      ("__xor__", "Return self^value."),
      ("__rxor__", "Return value^self."),
      ("__or__", "Return self|value."),
      ("__ror__", "Return value|self."),
      ("__floordiv__", "Return self//value."),
      ("__rfloordiv__", "Return value//self."),
      ("__truediv__", "Return self/value."),
      ("__rtruediv__", "Return value/self."),
      ("__ior__", "Return self|=value.")]),
    ("($self, key, /)", [
      ("__getitem__", "Return self[key]."),
      ("__contains__", "Return key in self."),
      ("__delitem__", "Delete self[key].")]),
    ("($self, value, mod=None, /)", [
      ("__pow__", "Return pow(self, value, mod)."),
      ("__rpow__", "Return pow(value, self, mod).")]),
    ("($self, /, *args, **kwargs)", [
      ("__init__", "Initialize self.  See help(type(self)) for accurate signature."),
      ("__call__", "Call self as a function.")]),
    ("($self, key, value, /)", [
      ("__setitem__", "Set self[key] to value.")]),
    ("($self, name, value, /)", [
      ("__setattr__", "Implement setattr(self, name, value).")]),
    ("($self, instance, owner=None, /)", [
      ("__get__", "Return an attribute of instance, which is of type owner.")]),
    ("($self, instance, value, /)", [
      ("__set__", "Set an attribute of instance to value.")]),
    ("($self, instance, /)", [
      ("__delete__", "Delete an attribute of instance.")])]

/-- What a special operation takes, and what is said of it; this is the same for all kinds. -/
def specialTexts? (name : String) : Option (String × String) :=
  specialGroups.findSome? fun (signature, group) => (group.lookup name).map (signature, ·)

def special (name : String) : Entry :=
  let texts := specialTexts? name
  ⟨name, .special, texts.map Prod.snd, texts.map Prod.fst⟩

def specials (names : List String) : List Entry :=
  names.map special

end Entry

end Thing

end TickBound
