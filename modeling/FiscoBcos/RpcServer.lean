/-
# The JSON-RPC dispatch of `ModularServer`

`ModularServer<I, Is...>` serves a list of interfaces through a chain of template levels, one
per interface, ending in `ModularServer<>`. The constructor of each level first builds its base,
then fills its own `m_methods` and `m_notifications` from its interface's bindings (a later
binding of a name overwrites an earlier one) and writes the interface's modules into the shared
`m_implementedModules`; the first interface is therefore the last to write. A call goes down the
chain: the first level whose map has the procedure's name runs it, and `ModularServer<>`
answers `rpc_modules` with the module table and ignores anything else.

* `lookup_foldl_assign`: a `std::map` filled binding by binding maps each name to its last
  binding, over what it held before;
* `call_build`: the chain runs the method of the first interface binding the name, its last
  binding there, and reaches the base only when no interface binds it;
* `notify_build`: the same for notifications;
* `implementedModules_build`: the module table gives each module the version of the first
  interface listing it, the same priority as the calls.

Registering the procedures with the protocol handler (`AddProcedure`), the connectors and the
statistics are outside the model.
-/
import Mathlib.Data.List.Basic

namespace Rpc

/-- `Json::Value` as the server writes it and a caller reads it. Only the top-level members of
an object are read, so the kinds the server never touches (reals, booleans) are left out. -/
inductive Json where
  | null
  | int (n : Int)
  | str (s : String)
  | arr (items : List Json)
  | obj (members : List (String × Json))

/-- `std::map<std::string, T>::operator[](key) = value` on the map's bindings: the binding of
`key` is replaced, or added. -/
def assign {β : Type} : List (String × β) → String → β → List (String × β)
  | [], k, v => [(k, v)]
  | (k', v') :: m, k, v => if k' = k then (k, v) :: m else (k', v') :: assign m k v

/-- `value[key] = x` in jsoncpp: a null value becomes an object, an object gets the member set,
and on any other value jsoncpp's assertion throws (`none`). -/
def Json.set : Json → String → Json → Option Json
  | .null, k, x => some (.obj [(k, x)])
  | .obj ms, k, x => some (.obj (assign ms k x))
  | _, _, _ => none

/-- What a bound method does with `(_input, _output)`: it returns, having left `output`, or
throws a `std::exception` whose `what()` is `what`, having left `output`. -/
inductive Outcome where
  | returned (output : Json)
  | threw (output : Json) (what : String)

/-- A bound method pointer, called as `(m_interface->*pointer)(_input, _output)`. -/
abbrev Method := Json → Json → Outcome

/-- The parts of a `ServerInterface` the server reads: `methods()` and `notifications()`, each
binding a procedure name to a pointer, and `implementedModules()`, each module's name and
version. A notification pointer is a number standing for it: what it does to its interface is
outside the model. -/
structure ServerInterface where
  methods : List (String × Method)
  notifications : List (String × Nat)
  implementedModules : List (String × String)

/-- One level `ModularServer<I, Is...>` without its base: `m_methods` and `m_notifications`. -/
structure Level where
  methods : List (String × Method)
  notifications : List (String × Nat)

/-- The server: its levels, outermost first, and `m_implementedModules`. -/
structure ModularServer where
  levels : List Level
  implementedModules : List (String × String)

/-- The loop of a constructor: bindings assigned in order into a `std::map`. -/
def assignAll {β : Type} (m : List (String × β)) (bs : List (String × β)) : List (String × β) :=
  bs.foldl (fun m b => assign m b.1 b.2) m

/-- The constructors. `ModularServer<>()` starts the module table as an empty object;
`ModularServer<I, Is...>(_i, _is...)` builds its base first and then, unless `_i` is null, binds
the interface's methods and notifications into empty maps and writes its modules over the
table. -/
def ModularServer.build : List (Option ServerInterface) → ModularServer
  | [] => ⟨[], []⟩
  | none :: is => { build is with levels := ⟨[], []⟩ :: (build is).levels }
  | some i :: is =>
    { levels := ⟨assignAll [] i.methods, assignAll [] i.notifications⟩ :: (build is).levels
      implementedModules := assignAll (build is).implementedModules i.implementedModules }

/-- `m_implementedModules` as the object `modules` answers with. -/
def modulesJson (t : List (String × String)) : Json :=
  .obj (t.map fun p => (p.1, .str p.2))

/-- The `try`/`catch` around a bound method: on an exception, `_output["ret_code"] = -1` and
`_output["detail_info"]` the message. `none` when jsoncpp's assertion throws out of the
handler. -/
def runMethod (name : String) (m : Method) (input output : Json) : Option Json :=
  match m input output with
  | .returned out => some out
  | .threw out what =>
    (out.set "ret_code" (.int (-1))).bind fun out =>
      out.set "detail_info" (.str ("callback " ++ name ++ " exceptioned, error msg:" ++ what))

/-- `HandleMethodCall(_proc, _input, _output)` down the levels, with `modules` the table
`ModularServer<>::modules` answers with. -/
def handleMethodCall (modules : List (String × String)) :
    List Level → String → Json → Json → Option Json
  | [], name, _, output =>
    if name = "rpc_modules" then some (modulesJson modules) else some output
  | l :: ls, name, input, output =>
    match l.methods.lookup name with
    | some m => runMethod name m input output
    | none => handleMethodCall modules ls name input output

/-- `HandleNotificationCall(_proc, _input)` down the levels: the pointer it calls, if any. -/
def handleNotificationCall : List Level → String → Option Nat
  | [], _ => none
  | l :: ls, name =>
    match l.notifications.lookup name with
    | some p => some p
    | none => handleNotificationCall ls name

namespace ModularServer

/-- A method call on the server. -/
def call (s : ModularServer) (name : String) (input output : Json) : Option Json :=
  handleMethodCall s.implementedModules s.levels name input output

/-- A notification on the server. -/
def notify (s : ModularServer) (name : String) : Option Nat :=
  handleNotificationCall s.levels name

end ModularServer

/-! ## Maps filled binding by binding -/

theorem lookup_cons_ite {β : Type} (k k' : String) (v : β) (m : List (String × β)) :
    ((k, v) :: m).lookup k' = if k' = k then some v else m.lookup k' := by
  by_cases h : k' = k
  · simp [h]
  · simp [List.lookup_cons, beq_false_of_ne h, h]

theorem lookup_assign {β : Type} (m : List (String × β)) (k k' : String) (v : β) :
    (assign m k v).lookup k' = if k' = k then some v else m.lookup k' := by
  induction m with
  | nil => simp [assign, lookup_cons_ite]
  | cons e m ih =>
    obtain ⟨k₀, v₀⟩ := e
    by_cases h : k₀ = k
    · subst h
      rw [assign, if_pos rfl, lookup_cons_ite, lookup_cons_ite]
      split_ifs <;> rfl
    · simp only [assign, if_neg h, lookup_cons_ite, ih]
      split_ifs with h₁ h₂ <;> first | rfl | exact absurd (h₁.symm.trans h₂) h

/-- **The last binding wins.** A map filled by assigning `bs` in order gives each name its last
binding in `bs`, and otherwise what it gave before. -/
theorem lookup_foldl_assign {β : Type} (m bs : List (String × β)) (k : String) :
    (assignAll m bs).lookup k = (bs.reverse.lookup k).or (m.lookup k) := by
  induction bs generalizing m with
  | nil => rfl
  | cons b bs ih =>
    obtain ⟨k₀, v₀⟩ := b
    rw [assignAll, List.foldl_cons, ← assignAll, ih, lookup_assign, List.reverse_cons,
      List.lookup_append, lookup_cons_ite, Option.or_assoc]
    split_ifs <;> rfl

/-! ## Which binding a call reaches -/

/-- The binding of `name` that wins among the interfaces' lists `sel`: that of the first
interface whose list binds `name`, and the last there. -/
def firstBinding {β : Type} (sel : ServerInterface → List (String × β))
    (is : List (Option ServerInterface)) (name : String) : Option β :=
  is.findSome? fun i => i.bind fun i => (sel i).reverse.lookup name

section FirstBinding

variable {β : Type} (sel : ServerInterface → List (String × β)) (name : String)

theorem firstBinding_cons_some (i : ServerInterface) (is : List (Option ServerInterface)) :
    firstBinding sel (some i :: is) name =
      ((sel i).reverse.lookup name).or (firstBinding sel is name) := by
  simp only [firstBinding, List.findSome?_cons, Option.some_bind]
  cases (sel i).reverse.lookup name <;> rfl

end FirstBinding

/-- **Module versions.** The module table gives each module the version of the first interface
listing it, the last listed there: the first interface writes last. -/
theorem implementedModules_build (is : List (Option ServerInterface)) (name : String) :
    (ModularServer.build is).implementedModules.lookup name =
      firstBinding (·.implementedModules) is name := by
  induction is with
  | nil => rfl
  | cons i is ih =>
    cases i with
    | none => exact ih
    | some i =>
      rw [firstBinding_cons_some, ← ih]
      exact lookup_foldl_assign _ _ name

theorem handleMethodCall_build_levels (modules : List (String × String))
    (is : List (Option ServerInterface)) (name : String) (input output : Json) :
    handleMethodCall modules (ModularServer.build is).levels name input output =
      match firstBinding (·.methods) is name with
      | some m => runMethod name m input output
      | none => if name = "rpc_modules" then some (modulesJson modules) else some output := by
  induction is with
  | nil => rfl
  | cons i is ih =>
    cases i with
    | none => exact ih
    | some i =>
      simp only [ModularServer.build, handleMethodCall, firstBinding_cons_some,
        lookup_foldl_assign, List.lookup_nil, Option.or_none]
      cases i.methods.reverse.lookup name with
      | none => exact ih
      | some m => rfl

/-- **Method dispatch.** A call of `name` runs the method of the first interface binding
`name`, its last binding there, under the `try`/`catch`; only when no interface binds `name`
does it reach `ModularServer<>`, which answers `rpc_modules` with the module table and leaves
the output of any other call as it was. -/
theorem call_build (is : List (Option ServerInterface)) (name : String) (input output : Json) :
    (ModularServer.build is).call name input output =
      match firstBinding (·.methods) is name with
      | some m => runMethod name m input output
      | none =>
        if name = "rpc_modules" then
          some (modulesJson (ModularServer.build is).implementedModules)
        else some output :=
  handleMethodCall_build_levels _ is name input output

/-- A method that returns `x` whatever it is given. -/
def constMethod (x : Json) : Method := fun _ _ => .returned x

/-- An `eth` interface at version `1.0` and one at `2.0` that also serves `net`, both binding
`eth_x`. -/
def twoEthServer : ModularServer :=
  .build [some ⟨[("eth_x", constMethod (.int 1))], [], [("eth", "1.0")]⟩,
    some ⟨[("eth_x", constMethod (.int 2))], [], [("eth", "2.0"), ("net", "1.0")]⟩]

/-- The call reaches the first interface, and the table keeps its `eth` version. -/
example : twoEthServer.call "eth_x" .null .null = some (.int 1) ∧
    twoEthServer.implementedModules.lookup "eth" = some "1.0" ∧
    twoEthServer.implementedModules.lookup "net" = some "1.0" := ⟨rfl, rfl, rfl⟩

/-- **Notification dispatch.** A notification of `name` calls the pointer of the first
interface binding `name`, its last binding there, and nothing when no interface binds it. -/
theorem notify_build (is : List (Option ServerInterface)) (name : String) :
    (ModularServer.build is).notify name = firstBinding (·.notifications) is name := by
  induction is with
  | nil => rfl
  | cons i is ih =>
    cases i with
    | none => exact ih
    | some i =>
      simp only [ModularServer.notify, ModularServer.build, handleNotificationCall,
        firstBinding_cons_some, lookup_foldl_assign, List.lookup_nil, Option.or_none]
      cases i.notifications.reverse.lookup name with
      | none => exact ih
      | some p => rfl

end Rpc
