import StubLinker.Operation

namespace StubLinker

/-- What can be configured. Both names may be written with `.` or `/`. -/
structure Settings where
  annotationPackage : String := "me/zhanghai/android/bytecoder/library"
  linkFailureClass : String := "java/lang/LinkageError"
  deriving DecidableEq, Repr

namespace Settings

/-- The package in internal form, without separators at its ends. -/
def packageName (s : Settings) : String :=
  let trimmed := s.annotationPackage.toList.dropWhile ClassName.isSeparator
  ClassName.internal (String.ofList (trimmed.reverse.dropWhile ClassName.isSeparator).reverse)

/-- The descriptor of the annotation with a simple name, in the configured package. -/
def markerDescriptor (s : Settings) (simpleName : String) : String :=
  if s.packageName.isEmpty then s!"L{simpleName};" else s!"L{s.packageName}/{simpleName};"

def marker? (s : Settings) (annotationType : String) : Option Marker :=
  Marker.all.find? fun m => s.markerDescriptor m.simpleName == annotationType

def linkFailure (s : Settings) : String :=
  ClassName.internal s.linkFailureClass

end Settings

end StubLinker
