import TickBound.Thing.Entry

/-!
# Entries of operations

What the kinds of operations and of other entries keep under their names.
-/

namespace TickBound

namespace Thing

namespace Entry

def operationEntries : List Entry :=
  specials ["__repr__", "__hash__", "__call__", "__getattribute__", "__lt__", "__le__", "__eq__",
      "__ne__", "__gt__", "__ge__"] ++
    [ordinary "__reduce__" none [],
      held "__module__",
      computed "__doc__",
      computed "__name__",
      computed "__qualname__",
      computed "__self__",
      computed "__text_signature__"]

def tiedSpecialEntries : List Entry :=
  specials ["__repr__", "__hash__", "__call__", "__getattribute__", "__lt__", "__le__", "__eq__",
      "__ne__", "__gt__", "__ge__"] ++
    [ordinary "__reduce__" none [],
      held "__self__",
      computed "__objclass__",
      computed "__name__",
      computed "__qualname__",
      computed "__doc__",
      computed "__text_signature__"]

def openOperationEntries : List Entry :=
  specials ["__repr__", "__call__", "__getattribute__", "__get__"] ++
    [ordinary "__reduce__" none [],
      held "__objclass__",
      held "__name__",
      computed "__doc__",
      computed "__qualname__",
      computed "__text_signature__"]

def openSpecialEntries : List Entry :=
  specials ["__repr__", "__call__", "__getattribute__", "__get__"] ++
    [ordinary "__reduce__" none [],
      held "__objclass__",
      held "__name__",
      computed "__doc__",
      computed "__qualname__",
      computed "__text_signature__"]

def computedEntryEntries : List Entry :=
  specials ["__repr__", "__getattribute__", "__get__", "__set__", "__delete__"] ++
    [held "__objclass__",
      held "__name__",
      computed "__doc__",
      computed "__qualname__"]

def heldEntryEntries : List Entry :=
  specials ["__repr__", "__getattribute__", "__get__", "__set__", "__delete__"] ++
    [ordinary "__reduce__" none [],
      held "__objclass__",
      held "__name__",
      computed "__doc__",
      computed "__qualname__"]

def kindOperationEntries : List Entry :=
  specials ["__repr__", "__call__", "__getattribute__", "__get__"] ++
    [held "__objclass__",
      held "__name__",
      computed "__doc__",
      computed "__qualname__",
      computed "__text_signature__"]

def freeOperationEntries : List Entry :=
  maker ::
    specials ["__repr__", "__call__", "__get__", "__init__"] ++
    [held "__func__",
      held "__wrapped__",
      computed "__isabstractmethod__",
      computed "__dict__",
      description
        ["staticmethod(function) -> method",
          "",
          "Convert a function to be a static method.",
          "",
          "A static method does not receive an implicit first argument.",
          "To declare a static method, use this idiom:",
          "",
          "     class C:",
          "         @staticmethod",
          "         def f(arg1, arg2, argN):",
          "             ...",
          "",
          "It can be called either on the class (e.g. C.f()) or on an instance",
          "(e.g. C().f()). Both the class and the instance are ignored, and",
          "neither is passed implicitly as the first argument to the method.",
          "",
          "Static methods in Python are similar to those found in Java or C++.",
          "For a more advanced concept, see the classmethod builtin."]]

end Entry

end Thing

end TickBound
