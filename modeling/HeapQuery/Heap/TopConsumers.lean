import HeapQuery.Heap.Histogram

namespace HeapQuery.Heap

namespace TopConsumers

structure Settings where
  snapshot : Option Snapshot := none
  threshold : Option Int32 := none
  packages : Bool := false

def isPercentage (n : Int32) : Bool := 0 ≤ n.toInt && n.toInt ≤ 100

def bind (s : Settings) (given : Given) : Except QueryError Settings :=
  let (a, field) := given
  match a.name with
  | "snapshot" => do return { s with snapshot := some (← field.scalarAs a Value.snapshot?) }
  | "threshold" => do
    let threshold ← field.optionalAs a Value.int?
    if threshold.all isPercentage then return { s with threshold := threshold }
    else throw (a.illegal field)
  | "packages" => do
    let packages ← field.optionalAs a Value.bool?
    return { s with packages := packages == some true }
  | _ => .error (a.illegal field)

def Settings.percent (s : Settings) : Nat := (s.threshold.map (·.toInt.toNat)).getD 0

def Settings.rowName (s : Settings) (o : Object) : String :=
  if s.packages then o.package else o.className

def addTo (name : String) (size : Nat) : List (String × Nat) → List (String × Nat)
  | [] => [(name, size)]
  | row :: rest =>
    if row.1 == name then (name, row.2 + size) :: rest else row :: addTo name size rest

def Settings.sums (s : Settings) (objects : List Object) : List (String × Nat) :=
  objects.foldl (fun rows o => addTo (s.rowName o) o.retained rows) []

def comesBefore (a b : String × Nat) : Bool :=
  if a.2 == b.2 then !(b.1 < a.1) else b.2 < a.2

/-- The sums that reach the wanted share of the total, whatever order they are collected in. -/
def Settings.ranked (s : Settings) (total : Nat) (sums : List (String × Nat)) :
    List (String × Nat) :=
  let large := sums.filter fun row => 0 < total && total * s.percent ≤ row.2 * 100
  large.mergeSort comesBefore

def Settings.consumers (s : Settings) (snapshot : Snapshot) : List (String × Nat) :=
  s.ranked snapshot.totalRetained (s.sums snapshot.objects)

/-- The whole number nearest to `x`, halves upwards; `x` is not negative. -/
def roundHalfUp : Number.Double → Number.Double
  | .finite negative m e =>
    let (n, d) := Number.Binary.ratio m e
    .ofRatio .double negative (Number.divideHalfUp n d) 1
  | x => x

def share (size total : Nat) : Number.Double :=
  let double := Number.Binary.ofNat .double
  let permille := ((double size).mul .double (double 1000)).div .double (double total)
  (roundHalfUp permille).div .double (double 10)

def row (total : Nat) (consumer : String × Nat) : Json :=
  .record
    [("name", .string consumer.1), ("retained", .nat consumer.2),
      ("percent", .number (.float (share consumer.2 total)))]

def run (s : Settings) : Run (Option Json) := do
  let snapshot ← needSnapshot s.snapshot
  Run.beginTask "Summing retained sizes" snapshot.objects.length
  Histogram.countAll 0 snapshot.objects
  Run.done
  let total := snapshot.totalRetained
  return some (.record
    [("total_retained", .nat total), ("threshold", .nat s.percent),
      ("consumers", .array ((s.consumers snapshot).map (row total)))])

def command : Command := .stateful "matq::queries::top_consumers::TopConsumers" {} bind run

end TopConsumers

def topConsumers : QuerySpec where
  command := TopConsumers.command
  name := some "1|Top Consumers"
  commandName := some "top_consumers"
  category := some "2|Leak Detection"
  help := some ("Classes whose objects retain at least the threshold percentage of the " ++
    "total retained size. Use -packages to aggregate by package instead.")
  arguments :=
    [snapshotArgument,
      { name := "threshold"
        type := .int
        flag := .named "t"
        default := some (.int 1)
        help := some "Minimum share of the total retained size, in percent." },
      { name := "packages"
        type := .boolean
        help := some "Aggregate by package instead of by class." }]

end HeapQuery.Heap
