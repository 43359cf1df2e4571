import KeyCall.Kit.Calls
import KeyCall.Registry

/-!
# The catalogue of the kit

The targets of the kit by name, in the order in which they are registered.

## Main definitions

* `Kit.targets`: the targets with the names they are registered under.
* `Kit.target?`: the target of a name.
* `Kit.avatarTargets`: the targets of a small second set.
-/

namespace KeyCall
namespace Kit

/-- A function of the kit, under its own name. -/
def functionEntry (name : String) : String × Value := (name, .target ⟨name, .function name⟩ [])

/-- A class of the kit, under its own name. -/
def classEntry (name : String) : String × Value := (name, classValue name name)

/-- The targets of the kit, in order. -/
def targets : List (String × Value) :=
  ["echo", "strtoupper", "avatar_path", "fail", "count", "none", "templ", "pair", "money",
    "raise_parse", "raise_parse_t", "raise_resolution", "raise_input",
    "raise_base"].map functionEntry ++
  [("anon", .target ⟨"anon", .function "<lambda>"⟩ []),
    ("shouter", .target ⟨"shouter", .callable "Shouter"⟩ [])] ++
  ["MyDecorator", "MyDecoratorPresenter", "Car", "CarPresenter", "CarView"].map classEntry ++
  ["Truck", "TruckPresenter", "Doc"].map functionEntry ++
  ["DocPresenter", "Bare", "BarePresenter", "Frozen", "FrozenPresenter", "Boom", "BoomPresenter",
    "Flaky", "FlakyPresenter"].map classEntry ++
  ["Same", "Meta"].map functionEntry ++
  [("storage.Files", classValue "storage.Files" "Files")]

/-- The target of a name. -/
def target? (name : String) : Option Value := Entries.get? (· == ·) targets name

/-- The targets of the avatars: two classes and the presenter of one of them. -/
def avatarTargets : List (String × Value) :=
  ["Avatar", "Profile", "ProfilePresenter"].map classEntry

end Kit
end KeyCall
