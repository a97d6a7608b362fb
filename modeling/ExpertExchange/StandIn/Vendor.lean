import ExpertExchange.Kernel.Source
import ExpertExchange.StandIn.Files
import ExpertExchange.Text.Lossy

/-!
# A stand-in for the vendor

A machine whose vendor libraries compute nothing. It hands out handles and memory, keeps what is
copied into memory, writes down every call, and can be told to fail a call of a given name with a
given code. It answers everything that is asked of a machine.
-/

namespace ExpertExchange.StandIn

/-- A failure that is due: of the calls of this name, `skip` more succeed before it. -/
structure Failing where
  call : String
  code : Int
  skip : Nat
  deriving Repr, DecidableEq

/-- A program of the runtime compiler; both texts end with a NUL byte once they are asked for. -/
structure CompilerProgram where
  source : String
  ptx : String
  log : String
  deriving Repr, DecidableEq

/-- What the vendor's functions report. -/
structure Equipment where
  devices : Int
  ncclVersion : Int
  grid : Int
  block : Int
  /-- The device of every communicator, if the library can tell. -/
  commDevice : Option Int
  /-- How long joining a group takes, in milliseconds. -/
  commDelay : Nat
  /-- First parts of architectures, by device. -/
  major : List Int
  /-- Second parts of architectures, by device. -/
  minor : List Int
  deriving Repr, DecidableEq

def Equipment.ordinary : Equipment := ⟨1, 22105, 108, 1024, none, 0, [], []⟩

/-- State of a stand-in machine. All handles count from one. -/
structure Vendor where
  installation : Installation
  equipment : Equipment
  /-- Files of the libraries opened so far. -/
  opened : List Installation.Path
  failing : List Failing
  /-- The calls made so far, last first. -/
  calls : List String
  streams : Nat
  events : Nat
  comms : Nat
  ids : Nat
  /-- Device memory: the bytes at the start of each block that are not zero for sure. -/
  blocks : List Bytes
  /-- Loaded modules: entries with the numbers of their parameters. -/
  modules : List (List (String × Nat))
  functions : List (String × Nat)
  programs : List CompilerProgram

namespace Vendor

/-- A machine on which nothing has happened. -/
def start (installation : Installation) (equipment : Equipment) : Vendor :=
  ⟨installation, equipment, [], [], [], 0, 0, 0, 0, [], [], [], []⟩

/-- Distance between two blocks, and the most that a block can hold. -/
def blockSize : Nat := 65536

def blockLimit : Nat := 255

def memoryBase : Nat := 0x400000000000

def blockAddress (n : Nat) : Nat := memoryBase + n * blockSize

/-- The block of an address, and the offset in it. -/
def place? (address : Nat) : Option (Nat × Nat) :=
  let n := (address - memoryBase) / blockSize
  if memoryBase ≤ address ∧ 0 < n ∧ n ≤ blockLimit then
    some (n, (address - memoryBase) % blockSize)
  else none

def placeName : Nat × Nat → String
  | (n, 0) => s!"p{n}"
  | (n, offset) => s!"p{n}+{offset}"

def addressName (address : Nat) : String :=
  if address = 0 then "null"
  else match place? address with
    | some p => placeName p
    | none => "host"

def hexadecimal (n : Nat) : String := "0x" ++ String.ofList (Nat.toDigits 16 n)

def slotName (word : Nat) : String :=
  match place? word with
  | some p => placeName p
  | none => hexadecimal word

/-- A block of zeros, if there is one left. -/
def allocate (v : Vendor) (size : Nat) : (Int × Nat) × Vendor :=
  if blockSize < size ∨ blockLimit ≤ v.blocks.length then ((2, 0), v)
  else ((0, blockAddress (v.blocks.length + 1)), { v with blocks := v.blocks ++ [[]] })

def copyIn (v : Vendor) (target : Nat) (content : Bytes) : Vendor :=
  match place? target with
  | none => v
  | some (n, offset) =>
    { v with blocks := v.blocks.modify (n - 1) fun old =>
        Bytes.overwrite (old ++ List.replicate (offset - old.length) 0) offset content }

def copyOut (v : Vendor) (source size : Nat) : Bytes :=
  match place? source with
  | none => List.replicate size 0
  | some (n, offset) =>
    let old := (v.blocks[n - 1]?).getD []
    ((old.drop offset).take size) ++ List.replicate (size - (old.drop offset).length) 0

def imageHeading : String := "image"

def imageEnd : String := "."

def entryLine? (line : String) : Option (String × Nat) :=
  match line.splitOn " " with
  | [name, count] => count.toNat?.map fun n => (name, n)
  | _ => none

/-- The entries on the lines of an image up to its last line, which has to be a whole line. -/
def entryLines? : List String → Option (List (String × Nat))
  | [] => none
  | line :: rest =>
    if line = imageEnd then if rest = [] then none else some []
    else do
      let entry ← entryLine? line
      let others ← entryLines? rest
      pure (entry :: others)

def entries? (image : Bytes) : Option (List (String × Nat)) :=
  match (Text.lossy image).splitOn "\n" with
  | heading :: rest => if heading = imageHeading then entryLines? rest else none
  | [] => none

def imageOf (entry : String) (parameters : Nat) : String :=
  s!"{imageHeading}\n{entry} {parameters}\n{imageEnd}\n"

/-- Number of parameters between the parentheses that are open at `depth`; `some` once there is a
first one. -/
def countParameters : (depth : Nat) → (count : Option Nat) → List Char → Nat
  | _, count, [] => count.getD 0
  | depth, count, c :: rest =>
    if c = ')' then
      if depth = 0 then count.getD 0 else countParameters (depth - 1) count rest
    else if c = '(' then countParameters (depth + 1) count rest
    else if c = ',' ∧ depth = 0 then countParameters depth (some (count.getD 1 + 1)) rest
    else if Text.isBlank c then countParameters depth count rest
    else countParameters depth (some (count.getD 1)) rest

def compiled (source : String) : String :=
  match KernelSource.parse source with
  | .error _ => imageOf "" 0
  | .ok parsed =>
    let name := parsed.entry.toList
    let rest := (KernelSource.afterMarkersFrom 0 source.toList).head?.getD []
    let rec parameters : List Char → Nat
      | [] => 0
      | c :: cs =>
        match KernelSource.nameBeforeParen? (c :: cs) with
        | some found =>
          if found = name then
            countParameters 0 none (((c :: cs).dropWhile (· != '(')).drop 1)
          else parameters cs
        | none => parameters cs
    imageOf parsed.entry (parameters rest)

def refused : String := "NVRTC_ERROR"

/-- Whether a text is a part of another one. -/
def isPart (part : List Char) : List Char → Bool
  | [] => part.isEmpty
  | c :: rest => part.isPrefixOf (c :: rest) || isPart part rest

def extentText (e : Extent) : String := s!"{e.x} {e.y} {e.z}"

def functionName (v : Vendor) (f : Nat) : String := ((v.functions[f - 1]?).map (·.1)).getD ""

/-- The arguments of a launch: no more than the kernel declares. -/
def launchArguments (v : Vendor) (f : Nat) (slots : List Nat) : List Nat :=
  slots.take (((v.functions[f - 1]?).map (·.2)).getD 0)

def idEnds (id : Bytes) : String :=
  s!"{(id.head?.getD 0).toNat} {(id.getLast?.getD 0).toNat}"

def describe (v : Vendor) : VendorCall → String × String
  | .setDevice d => ("cudaSetDevice", toString d)
  | .deviceCount => ("cudaGetDeviceCount", "")
  | .deviceAttribute i d => ("cudaDeviceGetAttribute", s!"{i}, {d}")
  | .deviceSynchronize => ("cudaDeviceSynchronize", "")
  | .streamCreate flags => ("cudaStreamCreateWithFlags", toString flags)
  | .streamSynchronize s => ("cudaStreamSynchronize", s!"s{s}")
  | .eventCreate flags => ("cudaEventCreateWithFlags", toString flags)
  | .eventRecord e s => ("cudaEventRecord", s!"e{e}, s{s}")
  | .streamWaitEvent s e flags => ("cudaStreamWaitEvent", s!"s{s}, e{e}, {flags}")
  | .eventDestroy e => ("cudaEventDestroy", s!"e{e}")
  | .malloc size => ("cudaMalloc", toString size)
  | .free a => ("cudaFree", addressName a)
  | .mallocAsync size s => ("cudaMallocAsync", s!"{size}, s{s}")
  | .freeAsync a s => ("cudaFreeAsync", s!"{addressName a}, s{s}")
  | .copyIn target content => ("cudaMemcpy", s!"{addressName target}, host, {content.length}, 1")
  | .copyOut source size => ("cudaMemcpy", s!"host, {addressName source}, {size}, 2")
  | .moduleLoad _ options =>
    ("cuModuleLoadDataEx", " ".intercalate (options.map fun o => s!"{o.1}:{o.2}"))
  | .moduleFunction m name => ("cuModuleGetFunction", s!"m{m}, {name}")
  | .moduleUnload m => ("cuModuleUnload", s!"m{m}")
  | .launch f g shared s slots =>
    ("cuLaunchKernel", s!"{functionName v f}, {extentText g.blocks}, {extentText g.threads}, " ++
      s!"{shared}, s{s}," ++
      String.join ((launchArguments v f slots).map fun w => " " ++ slotName w))
  | .occupancy f dynamic limit =>
    ("cuOccupancyMaxPotentialBlockSize", s!"{functionName v f}, {dynamic}, {limit}")
  | .compilerCreate source => ("nvrtcCreateProgram", toString source.utf8ByteSize)
  | .compilerCompile g options =>
    ("nvrtcCompileProgram", s!"g{g}, " ++ " ".intercalate options)
  | .compilerPtxSize g => ("nvrtcGetPTXSize", s!"g{g}")
  | .compilerPtx g => ("nvrtcGetPTX", s!"g{g}")
  | .compilerLogSize g => ("nvrtcGetProgramLogSize", s!"g{g}")
  | .compilerLog g => ("nvrtcGetProgramLog", s!"g{g}")
  | .compilerDestroy g => ("nvrtcDestroyProgram", s!"g{g}")
  | .ncclVersion => ("ncclGetVersion", "")
  | .ncclId => ("ncclGetUniqueId", "")
  | .ncclInit worldSize id rank => ("ncclCommInitRank", s!"{worldSize}, id {idEnds id}, {rank}")
  | .ncclDevice c => ("ncclCommCuDevice", s!"c{c}")
  | .ncclDestroy c => ("ncclCommDestroy", s!"c{c}")
  | .ncclAllReduce source target count t op c s =>
    ("ncclAllReduce",
      s!"{addressName source}, {addressName target}, {count}, {t}, {op}, c{c}, s{s}")
  | .ncclBroadcast source target count t root c s =>
    ("ncclBroadcast",
      s!"{addressName source}, {addressName target}, {count}, {t}, {root}, c{c}, s{s}")
  | .ncclSend source count t peer c s =>
    ("ncclSend", s!"{addressName source}, {count}, {t}, {peer}, c{c}, s{s}")
  | .ncclRecv target count t peer c s =>
    ("ncclRecv", s!"{addressName target}, {count}, {t}, {peer}, c{c}, s{s}")
  | .ncclGroupStart => ("ncclGroupStart", "")
  | .ncclGroupEnd => ("ncclGroupEnd", "")

/-- A value of each call, where there is nothing to give. -/
def noValue : (c : VendorCall) → c.Value
  | .copyOut _ _ | .compilerPtx _ | .compilerLog _ | .ncclId => ([] : Bytes)
  | .occupancy _ _ _ => ((0, 0) : Int × Int)
  | .deviceCount | .deviceAttribute _ _ | .ncclVersion | .ncclDevice _ => (0 : Int)
  | .ncclInit _ _ _ => ((0, 0) : Nat × Nat)
  | .setDevice _ | .deviceSynchronize | .streamCreate _ | .streamSynchronize _ | .eventCreate _
  | .eventRecord _ _ | .streamWaitEvent _ _ _ | .eventDestroy _ | .malloc _ | .free _
  | .mallocAsync _ _ | .freeAsync _ _ | .copyIn _ _ | .moduleLoad _ _ | .moduleFunction _ _
  | .moduleUnload _ | .launch _ _ _ _ _ | .compilerCreate _ | .compilerCompile _ _
  | .compilerPtxSize _ | .compilerLogSize _ | .compilerDestroy _ | .ncclDestroy _
  | .ncclAllReduce _ _ _ _ _ _ _ | .ncclBroadcast _ _ _ _ _ _ _ | .ncclSend _ _ _ _ _ _
  | .ncclRecv _ _ _ _ _ _ | .ncclGroupStart | .ncclGroupEnd => (0 : Nat)

/-- The second part of a device's architecture where nothing else is set. -/
def usualMinor (device : Int) : Int := device.tmod 10

/-- An attribute of a device: 75 is the first part of its architecture, 76 the second. -/
def deviceAttribute (q : Equipment) (index : Nat) (device : Int) : Int :=
  let listed (values : List Int) : Option Int :=
    if 0 ≤ device then values[device.toNat]? else none
  if index = 75 then (listed q.major).getD 8 else (listed q.minor).getD (usualMinor device)

def terminated (s : String) : Bytes := s.toUTF8.toList ++ [0]

def program (v : Vendor) (g : Nat) : CompilerProgram := (v.programs[g - 1]?).getD ⟨"", "", ""⟩

def idNumber (k : Nat) : Bytes := (List.range 128).map fun i => UInt8.ofNat (k + 2 * i)

def refusal : String := "  kernel.cu(1): error: bad\n"

/-- What a call that is not made to fail gives. -/
def perform (v : Vendor) : (c : VendorCall) → (Int × c.Value) × Vendor
  | .deviceCount => ((0, v.equipment.devices), v)
  | .deviceAttribute i d => ((0, deviceAttribute v.equipment i d), v)
  | .streamCreate _ => ((0, v.streams + 1), { v with streams := v.streams + 1 })
  | .eventCreate _ => ((0, v.events + 1), { v with events := v.events + 1 })
  | .malloc size => v.allocate size
  | .mallocAsync size _ => v.allocate size
  | .copyIn target content => ((0, (0 : Nat)), v.copyIn target content)
  | .copyOut source size => ((0, v.copyOut source size), v)
  | .moduleLoad image _ =>
    match entries? image with
    | some found => ((0, v.modules.length + 1), { v with modules := v.modules ++ [found] })
    | none => ((218, (0 : Nat)), v)
  | .moduleFunction m name =>
    match ((v.modules[m - 1]?).getD []).find? (·.1 = name) with
    | some found => ((0, v.functions.length + 1), { v with functions := v.functions ++ [found] })
    | none => ((500, (0 : Nat)), v)
  | .occupancy _ _ _ => ((0, (v.equipment.grid, v.equipment.block)), v)
  | .compilerCreate source =>
    ((0, v.programs.length + 1), { v with programs := v.programs ++ [⟨source, "", ""⟩] })
  | .compilerCompile g _ =>
    let p := v.program g
    if isPart refused.toList p.source.toList then
      ((6, (0 : Nat)), { v with programs := v.programs.set (g - 1) ⟨p.source, "", refusal⟩ })
    else
      let program : CompilerProgram := ⟨p.source, compiled p.source, ""⟩
      ((0, (0 : Nat)), { v with programs := v.programs.set (g - 1) program })
  | .compilerPtxSize g => ((0, (terminated (v.program g).ptx).length), v)
  | .compilerPtx g => ((0, terminated (v.program g).ptx), v)
  | .compilerLogSize g => ((0, (terminated (v.program g).log).length), v)
  | .compilerLog g => ((0, terminated (v.program g).log), v)
  | .ncclVersion => ((0, v.equipment.ncclVersion), v)
  | .ncclId => ((0, idNumber (v.ids + 1)), { v with ids := v.ids + 1 })
  | .ncclInit _ _ _ =>
    ((0, (v.comms + 1, v.equipment.commDelay)), { v with comms := v.comms + 1 })
  | .ncclDevice _ =>
    match v.equipment.commDevice with
    | some d => ((0, d), v)
    | none => ((4, (0 : Int)), v)
  | c => ((0, noValue c), v)

/-- What a call gives that is made to fail: joining a group has waited all the same. -/
def failed (v : Vendor) : (c : VendorCall) → c.Value
  | .ncclInit _ _ _ => ((0, v.equipment.commDelay) : Nat × Nat)
  | c => noValue c

/-- Count a call against the failures that are due: the code of the first one that is, and the
failures that remain. -/
def fire (name : String) : List Failing → Option Int × List Failing
  | [] => (none, [])
  | f :: rest =>
    if f.call = name then
      if f.skip = 0 then (some f.code, rest)
      else
        let (code, rest') := fire name rest
        (code, { f with skip := f.skip - 1 } :: rest')
    else
      let (code, rest') := fire name rest
      (code, f :: rest')

def make (v : Vendor) (c : VendorCall) : (Int × c.Value) × Vendor :=
  let (name, arguments) := v.describe c
  let text := s!"{name}({arguments})"
  match fire name v.failing with
  | (some code, rest) =>
    ((code, v.failed c), { v with failing := rest, calls := s!"{text} = {code}" :: v.calls })
  | (none, rest) => { v with failing := rest, calls := text :: v.calls }.perform c

/-- The code that no library describes. -/
def undescribedCode : Int := 999

/-- The code of which the driver library cannot even say that it is unknown. -/
def unknownCode : Int := 998

def spaceName : CodeSpace → String
  | .runtime => "runtime"
  | .driver => "driver"
  | .compiler => "nvrtc"
  | .nccl => "nccl"

def errorText (space : CodeSpace) (code : Int) : Option String :=
  if code = undescribedCode ∨ (space = .driver ∧ code = unknownCode) then none
  else some s!"{spaceName space} error {code}"

/-- Why a function is missing from an open library, if it is. -/
def missingSymbol (v : Vendor) (library : Nat) (name : String) : Option String :=
  match v.opened[library - 1]? with
  | some place =>
    if place.dropLast = Installation.emptyRoot then
      some ("/".intercalate place ++ s!": undefined symbol: {name}")
    else none
  | none => none

def answer : (r : Machine.Request) → Vendor → Machine.Answer r × Vendor
  | .environment name, v =>
    ((v.installation.environment.find? (·.1 = name)).map (·.2), v)
  | .openLibrary name, v =>
    match v.installation.openLibrary name with
    | .ok place => (.ok (v.opened.length + 1), { v with opened := v.opened ++ [place] })
    | .error cause => (.error cause, v)
  | .symbol library name, v => (v.missingSymbol library name, v)
  | .fileExists path, v => (v.installation.fileExists path, v)
  | .runCompiler path source options, v => (v.installation.runCompiler path source options, v)
  | .errorText space code, v => (errorText space code, v)
  | .startThread _, v => (none, v)
  | .call c, v => v.make c

end Vendor

end ExpertExchange.StandIn
