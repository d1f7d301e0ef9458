import StubLinker.Proofs.ClassFile.Room
import StubLinker.Proofs.Stub.Sizes

namespace StubLinker

namespace LinkPlan

variable {s : Shape} {d : Directive} {failure : String} {p : LinkPlan}

end LinkPlan

end StubLinker
