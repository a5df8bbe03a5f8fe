import TickBound.Thing.Entry

/-!
# Entries of kinds themselves

What the kind of kinds, the kind above all others, the kind of the absent thing and that of kinds
with an argument keep under their names.
-/

namespace TickBound

namespace Thing

namespace Entry

def kindEntries : List Entry :=
  maker ::
    specials ["__repr__", "__call__", "__getattribute__", "__setattr__", "__delattr__", "__init__",
      "__or__", "__ror__"] ++
    [ordinary "mro" (some "($self, /)") ["Return a type's method resolution order."],
      ordinary "__subclasses__" (some "($self, /)") ["Return a list of immediate subclasses."],
      ofKind "__prepare__" none
        ["__prepare__() -> dict",
          "used to create the namespace for the class statement"],
      ordinary "__instancecheck__" (some "($self, instance, /)") ["Check if an object is an instance."],
      ordinary "__subclasscheck__" (some "($self, subclass, /)") ["Check if a class is a subclass."],
      ordinary "__dir__" (some "($self, /)") ["Specialized __dir__ implementation for types."],
      ordinary "__sizeof__" (some "($self, /)") ["Return memory consumption of the type object."],
      held "__basicsize__",
      held "__itemsize__",
      held "__flags__",
      held "__weakrefoffset__",
      held "__base__",
      held "__dictoffset__",
      held "__mro__",
      computed "__name__",
      computed "__qualname__",
      computed "__bases__",
      computed "__module__",
      computed "__abstractmethods__",
      computed "__dict__",
      computed "__doc__",
      computed "__text_signature__",
      computed "__annotations__"]

def baseEntries : List Entry :=
  maker ::
    specials ["__repr__", "__hash__", "__str__", "__getattribute__", "__setattr__", "__delattr__", "__lt__",
      "__le__", "__eq__", "__ne__", "__gt__", "__ge__", "__init__"] ++
    [ordinary "__reduce_ex__" (some "($self, protocol, /)") ["Helper for pickle."],
      ordinary "__reduce__" (some "($self, /)") ["Helper for pickle."],
      ordinary "__getstate__" (some "($self, /)") ["Helper for pickle."],
      ofKind "__subclasshook__" none
        ["Abstract classes can override this to customize issubclass().",
          "",
          "This is invoked early on by abc.ABCMeta.__subclasscheck__().",
          "It should return True, False or NotImplemented.  If it returns",
          "NotImplemented, the normal algorithm is used.  Otherwise, it",
          "overrides the normal algorithm (and the outcome is cached).",
          ""],
      ofKind "__init_subclass__" none
        ["This method is called when a class is subclassed.",
          "",
          "The default implementation does nothing. It may be",
          "overridden to extend subclasses.",
          ""],
      ordinary "__format__" (some "($self, format_spec, /)") ["Default object formatter."],
      ordinary "__sizeof__" (some "($self, /)") ["Size of object in memory, in bytes."],
      ordinary "__dir__" (some "($self, /)") ["Default dir() implementation."],
      computed "__class__" "the object's class",
      description
        ["The base class of the class hierarchy.",
          "",
          "When called, it accepts no arguments and returns a new featureless",
          "instance that has no instance attributes and cannot be given any.",
          ""]]

def nothingEntries : List Entry :=
  maker ::
    specials ["__repr__", "__bool__"] ++
    [description]

def appliedEntries : List Entry :=
  maker ::
    specials ["__repr__", "__hash__", "__call__", "__getattribute__", "__lt__", "__le__", "__eq__",
      "__ne__", "__gt__", "__ge__", "__iter__", "__or__", "__ror__", "__getitem__"] ++
    [ordinary "__mro_entries__" none [],
      ordinary "__instancecheck__" none [],
      ordinary "__subclasscheck__" none [],
      ordinary "__reduce__" none [],
      ordinary "__dir__" none [],
      held "__origin__",
      held "__args__",
      held "__unpacked__",
      computed "__parameters__" "Type variables in the GenericAlias.",
      computed "__typing_unpacked_tuple_args__",
      description
        ["Represent a PEP 585 generic type",
          "",
          "E.g. for t = list[int], t.__origin__ is list and t.__args__ is (int,)."]]

end Entry

end Thing

end TickBound
