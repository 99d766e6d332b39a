import Introspect.Session.Declare
import Introspect.Session.Functions
import Introspect.Session.Inspections

/-!
# Answering requests

* `answerWith`        the answer to a request, given how functions are called;
* `callWithin`        calls a function, with at most so many calls inside of each other;
* `Session.answer`    the answer to a request, and the session afterwards;
* `Session.answers`   the answers to several requests, one after the other; a fault ends only the
                      request that it arises in.
-/

namespace Introspect

def answerWith (call : Caller) : Request → Run Answer
  | .newFunction f name layout => newFunction f name layout
  | .newGeneric f name params body doc layout => newGeneric f name params body doc layout
  | .register f signature params body => register f signature params body
  | .call f args named => callFunction call f args named
  | .methods f signature => do
    let i ← functionNamed f
    methodTexts i (← signatureValues signature)
  | .resolve f types => resolveMethod f types
  | .describe f => describeFunction f
  | .formatSignature types => do
    let sig ← Literal.values types
    shown (signatureText · sig)
  | .method f index query => queryMethod f index query
  | .state f => functionState f
  | .specializations target signature reader => listSpecializations target signature reader
  | .methodSpecializations f index => listMethodSpecializations f index
  | .view f index id reader => keepView f index id reader
  | .iterateView id => iterateView id
  | .backedges target reader => listBackedges target reader
  | .setEdges f edges => setEdges f edges
  | .addEdge f signature dependent => addEdge f signature dependent
  | .addVariantEdge owner dependent => addVariantEdge owner dependent
  | .damage f what => damage f what
  | .bindName m name value => bindName m name value
  | .unbindName m name => unbindName m name
  | .annotateName m name annotation => annotateName m name annotation
  | .setAnnotations m value => bindName m "__annotations__" value
  | .isGlobal m name e => isGlobalName m name e
  | .globalNames m e => listGlobals m e
  | .globalValues m e => listGlobalValues m e
  | .objects m => listObjects m
  | .functionNames m settings => listFunctionNames m settings
  | .functions m settings => listFunctions m settings
  | .lookupBindings m names via => lookupBindings m names via
  | .bindingKind value => kindAnswer value
  | .isImmutable value => immutableAnswer value
  | .children m flags settings => listChildren m flags settings
  | .descendants m flags settings => listDescendants m flags settings
  | .submodules m recursive base imported => listSubmodules m recursive base imported
  | .isSubmodule m name => isSubmoduleName m name
  | .isFoundational m settings => isFoundationalModule m settings
  | .inventoryNames m e imported => listInventory m e imported
  | .inventoryValues m e imported => listInventoryValues m e imported
  | .typeQuery q value => typeAnswer q value
  | .typeTree type depth listing => typeTreeAnswer type depth listing
  | .resolveTarget target => resolveTargetAnswer target
  | .resolveType target => resolveClassAnswer target
  | .resolveModule target => resolveModuleAnswer target
  | .parseSignature text => parseSignatureAnswer text
  | .command argv settingsFile => runCommand argv settingsFile
  | .unknown form => throw (.noKey (Text.quoted form))

/-- the answer to a request as a value, which is how a script sees it -/
def stepWith (call : Caller) (r : Request) : Run Value := do return (← answerWith call r).toValue

def callWithin : Nat → Caller
  | 0 => fun _ _ _ => throw .tooDeep
  | n + 1 => fun f args named =>
    enterCall f args (callMethod (callWithin n) (stepWith (callWithin n)) args named)

/-- how many calls may be inside of each other -/
def callDepth : Nat := 150

namespace Session

def answer (r : Request) : Run Answer := answerWith (callWithin callDepth) r

def answers : List Request → Session → List (Except Fault Answer)
  | [], _ => []
  | r :: rs, s =>
    let (a, s) := (answer r).run s
    a :: answers rs s

end Session

end Introspect
