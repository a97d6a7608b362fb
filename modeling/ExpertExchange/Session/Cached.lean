import ExpertExchange.Kernel.Cache
import ExpertExchange.Session.Reply

/-!
# Commands on a kernel cache

A cache of texts: compiling a source gives its entry point and a tag, or fails as it is told to, so
that one can see when the cache compiles at all.
-/

namespace ExpertExchange

inductive CacheCommand where
  | insert (text : String)
  | get (handle : KernelHandle) (device : Nat)
  /-- The compiled text. A compilation, if it comes to one, gives the tag, or fails. -/
  | compile (handle : KernelHandle) (device : Nat) (result : Except String String)
  | size

namespace CacheCommand

def compiled (result : Except String String) (source : KernelSource) : Outcome KernelError String :=
  match result with
  | .ok tag => .ok (source.entry ++ ":" ++ tag)
  | .error reason => .error (.malformed (.other reason))

/-- The compiled text of a handle, whether a compilation was run, and the cache afterwards. -/
def compile? (handle : KernelHandle) (device : Nat) (result : Except String String)
    (c : KernelCache String) : Outcome KernelError String × Bool × KernelCache String :=
  let count (source : KernelSource) : Act Silence (Bool × KernelCache String) KernelError String :=
    fun s => .done (compiled result source, (true, s.2))
  (KernelCache.getOrCompile Part.second handle device count (false, c)).value

def run (c : KernelCache String) : CacheCommand →
    Outcome SessionError Reply × KernelCache String
  | .insert text =>
    match KernelSource.parse text with
    | .error why => (.error (.kernel (.malformed why)), c)
    | .ok source =>
      let (handle, c') := c.insert source
      (.ok (.fields [("handle", .count handle.index), ("display", .text handle.text)]), c')
  | .get handle device =>
    (((c.get handle).mapError .kernel).bind fun k =>
      .ok (.fields [("entry", .text k.source.entry), ("compiled", .flag (k.isCompiled device))]), c)
  | .compile handle device result =>
    let (o, called, c') := compile? handle device result c
    (.ok (.fields [("called", .flag called),
      ("result", .ended ((o.mapError .kernel).bind fun text => .ok (.text text)))]), c')
  | .size => (.ok (.fields [("len", .count c.size), ("empty", .flag (c.size == 0))]), c)

def runAll (c : KernelCache String) : List CacheCommand → List (Outcome SessionError Reply)
  | [] => []
  | command :: rest =>
    let (answer, c') := command.run c
    answer :: runAll c' rest

end CacheCommand

end ExpertExchange
