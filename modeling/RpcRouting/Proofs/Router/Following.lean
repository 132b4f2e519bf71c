import Mathlib.Logic.Function.Basic
import RpcRouting.Proofs.Router.Ledger
import RpcRouting.Proofs.Router.Withdrawing
/-! A router whose registrations go by names, followed by its listeners: each folds what it is told
into what it counts as available. What is open is as the ledger has it, and what a listener knows is
what it sees of that. So two routers with one ledger cannot be told apart, whatever has become of
them on the way. -/
namespace RpcRouting
open Current (Identifier)

variable {N I L : Type}

/-- A router, with what takes back each registration that is open and with what the listener of each
registration counts as available. -/
structure Followed (N I L : Type) where
  router : Router I L
  registered : N → Option (Change I L)
  known : Nat → Finset Identifier

namespace Followed

def ofSettings (settings : RouterSettings) : Followed N I L :=
  ⟨.ofSettings settings, fun _ => none, fun _ => ∅⟩

/-- The change that something done makes to the router. What has not been opened is not closed; but
who closes what is not there has the listeners told what they see then. -/
def change? (followed : Followed N I L) : Doing N I L → Option (Change I L)
  | .register _ implementation cost rpcs => some (.register implementation cost rpcs)
  | .listen _ listener => some (.listen listener)
  | .close name => followed.registered name
  | .miss => some (.unregister followed.router.nextNumber)
  | .updateSchema _ => none

/-- What the listeners are told of something that is done. -/
def told (followed : Followed N I L) (errand : Errand N I L) : List (Delivery L) :=
  ((followed.change? errand.doing).map (followed.router.queuedBy errand.accepts)).getD []

/-- What listeners know before they are told of it. A new one starts from what it counts as told. -/
def awaiting (followed : Followed N I L) (errand : Errand N I L) : Nat → Finset Identifier :=
  match errand.doing with
  | .listen _ listener => Function.update followed.known followed.router.nextNumber
      (followed.router.toldAtFirst errand.accepts listener).toFinset
  | _ => followed.known

/-- What the listener that has been registered by a name counts as available, while it is
registered. -/
def folded? (followed : Followed N I L) (name : N) : Option (Finset Identifier) :=
  match followed.registered name with
  | some (.unlisten number) => some (followed.known number)
  | _ => none

/-- Nothing that can be asked of two routers, and nothing that their listeners know, tells one from
the other. -/
structure Alike (first second : Followed N I L) : Prop where
  choose : second.router.choose = first.router.choose
  isAvailable : ∀ rpc, second.router.isAvailable rpc = first.router.isAvailable rpc
  available : ∀ rpc, rpc ∈ second.router.available ↔ rpc ∈ first.router.available
  folded : ∀ name, second.folded? name = first.folded? name

variable [DecidableEq N]

/-- What is registered after the router has been changed. -/
def registeredAfter (followed : Followed N I L) : Doing N I L → N → Option (Change I L)
  | .register name _ _ _ =>
    Function.update followed.registered name (some (.unregister followed.router.nextNumber))
  | .listen name _ =>
    Function.update followed.registered name (some (.unlisten followed.router.nextNumber))
  | .close name => Function.update followed.registered name none
  | .miss | .updateSchema _ => followed.registered

/-- Something is done, and listeners are told of it. -/
def take (followed : Followed N I L) (errand : Errand N I L) : Followed N I L where
  router := match followed.change? errand.doing, errand.doing with
    | some change, _ => followed.router.settle errand.accepts change
    | none, .updateSchema schema => followed.router.updateSchema schema
    | none, _ => followed.router
  registered := followed.registeredAfter errand.doing
  known number := heard (followed.awaiting errand number)
    (callsTo number ((followed.told errand).flatMap Delivery.calls))

def after (followed : Followed N I L) (errands : List (Errand N I L)) : Followed N I L :=
  errands.foldl take followed

/-- What is told of things that are done one after the other. -/
def toldOf (followed : Followed N I L) : List (Errand N I L) → List (Delivery L)
  | [] => []
  | errand :: later => followed.told errand ++ (followed.take errand).toldOf later

end Followed

/-- An implementation that the ledger has by a name is offered, and taken back by that name. -/
def Ledger.Offers (registered : N → Option (Change I L)) (entry : N × Offer I)
    (offer : Offer I) : Prop :=
  registered entry.1 = some (.unregister offer.registration) ∧ entry.2 = offer.numberless

/-- A listener that the ledger has by a name listens, and is taken back by that name. -/
def Ledger.Listens (registered : N → Option (Change I L)) (entry : N × L)
    (subscription : Subscription L) : Prop :=
  registered entry.1 = some (.unlisten subscription.registration) ∧
    entry.2 = subscription.listener

/-- A router has open what the ledger has, and its listeners know what they have been told; which is
what they see if they accept implementations as they do for good. -/
structure Followed.Keeps (custom : Custom N I L) (ledger : Ledger N I L)
    (followed : Followed N I L) : Prop where
  orderly : followed.router.Orderly
  schema : followed.router.schema = ledger.schema
  offers : List.Forall₂ (Ledger.Offers followed.registered) ledger.offers followed.router.offers
  listeners : List.Forall₂ (Ledger.Listens followed.registered) ledger.listeners
    followed.router.subscriptions
  entered : ∀ name, followed.registered name ≠ none → name ∈ ledger.names
  apart : ∀ name other change, followed.registered name = some change →
    followed.registered other = some change → name = other
  told : ∀ subscription ∈ followed.router.subscriptions,
    followed.known subscription.registration = subscription.told.toFinset
  seen : ∀ name, custom.lasts name → ∀ subscription ∈ followed.router.subscriptions,
    followed.registered name = some (.unlisten subscription.registration) →
      subscription.told.toFinset =
        (followed.router.visible custom.accepts subscription.listener).toFinset

/-! Entries and what stands for them. -/

section
variable {A B : Type} {R R' : A → B → Prop} {entries : List A} {open' : List B}

theorem exists_entry (same : List.Forall₂ R entries open') {b : B} (member : b ∈ open') :
    ∃ a ∈ entries, R a b := by
  induction same with
  | nil => cases member
  | cons first _ ih =>
    rcases List.mem_cons.mp member with rfl | later
    · exact ⟨_, List.mem_cons_self, first⟩
    · obtain ⟨a, inside, related⟩ := ih later
      exact ⟨a, List.mem_cons_of_mem _ inside, related⟩

theorem map_entries {C : Type} {f : A → C} {g : B → C} (same : List.Forall₂ R entries open')
    (alike : ∀ a b, R a b → f a = g b) : entries.map f = open'.map g := by
  induction same with
  | nil => rfl
  | cons first _ ih => rw [List.map_cons, List.map_cons, alike _ _ first, ih]

theorem filter_entries (same : List.Forall₂ R entries open') {p : A → Bool} {q : B → Bool}
    (stays : ∀ a b, R a b → p a = q b) (after : ∀ a b, R a b → p a = true → R' a b) :
    List.Forall₂ R' (entries.filter p) (open'.filter q) := by
  induction same with
  | nil => exact .nil
  | cons first _ ih =>
    rw [List.filter_cons, List.filter_cons, ← stays _ _ first]
    split
    · exact .cons (after _ _ first ‹_›) ih
    · exact ih

end

namespace Followed
open Ledger (Offers Listens)

variable {custom : Custom N I L} {now : Acceptance I L} {ledger other : Ledger N I L}
  {followed : Followed N I L} {name : N} {number : Nat} {change : Change I L}

/-- What is not open is not closed. -/
theorem take_close_of_none [DecidableEq N] (now : Acceptance I L)
    (registered : followed.registered name = none) :
    followed.take ⟨now, .close name⟩ = followed := by
  simp only [take, told, awaiting, change?, registered, registeredAfter, Option.map_none,
    Option.getD_none, List.flatMap_nil]
  rw [← registered, Function.update_eq_self]
  rfl

namespace Keeps

theorem ofSettings (custom : Custom N I L) (settings : RouterSettings) :
    Keeps custom (.ofSettings settings) (.ofSettings settings) where
  orderly := .ofSettings settings
  schema := rfl
  offers := .nil
  listeners := .nil
  entered _ opened := absurd rfl opened
  apart := nofun
  told := nofun
  seen _ _ := nofun

/-- What is registered by a name stands in the ledger, and is taken back as what it is. -/
theorem taken (keeps : Keeps custom ledger followed)
    (registered : followed.registered name = some change) :
    (∃ offer ∈ followed.router.offers, change = .unregister offer.registration) ∨
      ∃ subscription ∈ followed.router.subscriptions,
        change = .unlisten subscription.registration := by
  have member := keeps.entered name (by rw [registered]; exact nofun)
  rcases List.mem_append.mp member with offer | listener
  · obtain ⟨entry, inside, rfl⟩ := List.mem_map.mp offer
    obtain ⟨offer, opened, takes, -⟩ := exists_entry keeps.offers.flip inside
    exact .inl ⟨offer, opened, Option.some.inj (registered.symm.trans takes)⟩
  · obtain ⟨entry, inside, rfl⟩ := List.mem_map.mp listener
    obtain ⟨subscription, opened, takes, -⟩ := exists_entry keeps.listeners.flip inside
    exact .inr ⟨subscription, opened, Option.some.inj (registered.symm.trans takes)⟩

theorem registered_of_mem (keeps : Keeps custom ledger followed) (member : name ∈ ledger.names) :
    followed.registered name ≠ none := by
  rcases List.mem_append.mp member with offer | listener
  · obtain ⟨entry, inside, rfl⟩ := List.mem_map.mp offer
    obtain ⟨offer, -, takes, -⟩ := exists_entry keeps.offers.flip inside
    rw [takes]
    exact nofun
  · obtain ⟨entry, inside, rfl⟩ := List.mem_map.mp listener
    obtain ⟨subscription, -, takes, -⟩ := exists_entry keeps.listeners.flip inside
    rw [takes]
    exact nofun

theorem unregistered (keeps : Keeps custom ledger followed) (fresh : name ∉ ledger.names) :
    followed.registered name = none :=
  not_not.mp fun opened => fresh (keeps.entered name opened)

/-- Nothing is registered yet by the next number. -/
theorem number_lt (keeps : Keeps custom ledger followed)
    (registered : followed.registered name = some change)
    (numbered : change = .unregister number ∨ change = .unlisten number) :
    number < followed.router.nextNumber := by
  rcases keeps.taken registered with ⟨offer, opened, rfl⟩ | ⟨subscription, opened, rfl⟩
  · obtain rfl : offer.registration = number := by simpa using numbered
    exact keeps.orderly.offers_lt offer opened
  · obtain rfl : subscription.registration = number := by simpa using numbered
    exact keeps.orderly.subscriptions_lt subscription opened

/-! What becomes of what is registered. -/

section
variable {registered : N → Option (Change I L)}

theorem ne_of_unregistered {entry : N} (fresh : registered name = none)
    (stands : registered entry = some change) : entry ≠ name := by
  rintro rfl
  cases fresh.symm.trans stands

variable [DecidableEq N]

theorem offers_update {entry : N × Offer I} {offer : Offer I} {taken : Option (Change I L)}
    (ne : entry.1 ≠ name) (offers : Offers registered entry offer) :
    Offers (Function.update registered name taken) entry offer :=
  ⟨(Function.update_of_ne ne ..).trans offers.1, offers.2⟩

theorem listens_update {entry : N × L} {subscription : Subscription L} {taken : Option (Change I L)}
    (ne : entry.1 ≠ name) (listens : Listens registered entry subscription) :
    Listens (Function.update registered name taken) entry subscription :=
  ⟨(Function.update_of_ne ne ..).trans listens.1, listens.2⟩

theorem entered_update (keeps : Keeps custom ledger followed) {entry : N}
    {taken : Option (Change I L)}
    (registered : Function.update followed.registered name taken entry ≠ none) :
    entry = name ∨ entry ∈ ledger.names := by
  rw [Function.update_apply] at registered
  split at registered
  · exact .inl ‹_›
  · exact .inr (keeps.entered entry registered)

theorem apart_update
    (apart : ∀ name other change, registered name = some change →
      registered other = some change → name = other)
    {taken : Option (Change I L)}
    (new : ∀ other change, taken = some change → registered other ≠ some change) :
    ∀ first second change, Function.update registered name taken first = some change →
      Function.update registered name taken second = some change → first = second := by
  intro first second change here there
  rw [Function.update_apply] at here there
  split at here <;> split at there
  · rename_i same same'
    exact same.trans same'.symm
  · exact absurd there (new second change here)
  · exact absurd here (new first change there)
  · exact apart first second change here there

end

section
variable [DecidableEq N] {errand : Errand N I L} {errands : List (Errand N I L)}

/-- A change is made and told, after which the router has what another ledger has. -/
theorem changed (keeps : Keeps custom ledger followed) (errand : Errand N I L)
    (other : Ledger N I L) (change : Change I L)
    (router : (followed.take errand).router = followed.router.settle errand.accepts change)
    (told : followed.told errand = followed.router.queuedBy errand.accepts change)
    (schema : other.schema = ledger.schema)
    (offers : List.Forall₂ (Offers (followed.take errand).registered) other.offers
      (followed.router.amend errand.accepts change).offers)
    (listeners : List.Forall₂ (Listens (followed.take errand).registered) other.listeners
      (followed.router.amend errand.accepts change).subscriptions)
    (entered : ∀ name, (followed.take errand).registered name ≠ none → name ∈ other.names)
    (apart : ∀ name other change, (followed.take errand).registered name = some change →
      (followed.take errand).registered other = some change → name = other)
    (awaits : ∀ subscription ∈ (followed.router.amend errand.accepts change).subscriptions,
      followed.awaiting errand subscription.registration = subscription.told.toFinset)
    (agrees : other.Agrees custom errand.accepts) : Keeps custom other (followed.take errand) := by
  have subscriptions : (followed.router.settle errand.accepts change).subscriptions =
      (followed.router.amend errand.accepts change).subscriptions.map fun before =>
        before.refresh ((followed.router.amend errand.accepts change).visible errand.accepts
          before.listener) := Router.subscriptions_apply ..
  have listened : List.Forall₂ (Listens (followed.take errand).registered) other.listeners
      (followed.router.settle errand.accepts change).subscriptions := by
    rw [subscriptions, List.forall₂_map_right_iff]
    refine listeners.imp fun entry before listens => ?_
    exact ⟨by rw [registration_refresh]; exact listens.1, by rw [listener_refresh]; exact listens.2⟩
  constructor
  case orderly =>
    rw [router]
    exact (keeps.orderly.apply errand.accepts change).congr rfl rfl rfl rfl
  case schema =>
    rw [router, schema, ← keeps.schema]
    exact Router.schema_apply ..
  case offers => exact router ▸ offers
  case listeners => exact router ▸ listened
  case entered => exact entered
  case apart => exact apart
  case told =>
    rw [router]
    intro subscription member
    have heard := (Router.heard_settle keeps.orderly awaits member).1
    rw [← told] at heard
    exact heard
  case seen =>
    rw [router]
    intro name lasts subscription member registered
    obtain ⟨entry, inside, registered', same⟩ := exists_entry listened member
    obtain rfl := apart _ _ _ registered' registered
    rw [(Router.heard_settle keeps.orderly awaits member).2]
    refine congrArg List.toFinset (visible_congr fun offer opened => ?_)
    obtain ⟨entry', inside', -, same'⟩ := exists_entry offers opened
    have accepted := agrees entry inside lasts entry' inside'
    rw [same, same'] at accepted
    exact accepted

theorem register (keeps : Keeps custom ledger followed) {implementation : I} {cost : Nat}
    {rpcs : List Identifier}
    (fits : ledger.Fits custom ⟨now, .register name implementation cost rpcs⟩) :
    Keeps custom (ledger.take ⟨now, .register name implementation cost rpcs⟩)
      (followed.take ⟨now, .register name implementation cost rpcs⟩) := by
  have fresh := keeps.unregistered (fits.fresh name rfl)
  apply keeps.changed ⟨now, .register name implementation cost rpcs⟩ (ledger.take _) _ rfl rfl rfl
  case offers =>
    refine List.rel_append (keeps.offers.imp fun entry offer offers => ?_)
      (.cons ⟨Function.update_self .., rfl⟩ .nil)
    exact offers_update (ne_of_unregistered fresh offers.1) offers
  case listeners =>
    refine keeps.listeners.imp fun entry subscription listens => ?_
    exact listens_update (ne_of_unregistered fresh listens.1) listens
  case entered =>
    exact fun _ registered => Ledger.mem_names_take_register.mpr (keeps.entered_update registered)
  case apart =>
    refine apart_update keeps.apart fun other change new registered => ?_
    cases new
    exact Nat.lt_irrefl _ (keeps.number_lt registered (.inl rfl))
  case awaits => exact keeps.told
  case agrees => exact fits.after

theorem listen (keeps : Keeps custom ledger followed) {listener : L}
    (fits : ledger.Fits custom ⟨now, .listen name listener⟩) :
    Keeps custom (ledger.take ⟨now, .listen name listener⟩)
      (followed.take ⟨now, .listen name listener⟩) := by
  have fresh := keeps.unregistered (fits.fresh name rfl)
  apply keeps.changed ⟨now, .listen name listener⟩ (ledger.take _) _ rfl rfl rfl
  case offers =>
    refine keeps.offers.imp fun entry offer offers => ?_
    exact offers_update (ne_of_unregistered fresh offers.1) offers
  case listeners =>
    refine List.rel_append (keeps.listeners.imp fun entry subscription listens => ?_)
      (.cons ⟨Function.update_self .., rfl⟩ .nil)
    exact listens_update (ne_of_unregistered fresh listens.1) listens
  case entered =>
    exact fun _ registered => Ledger.mem_names_take_listen.mpr (keeps.entered_update registered)
  case apart =>
    refine apart_update keeps.apart fun other change new registered => ?_
    cases new
    exact Nat.lt_irrefl _ (keeps.number_lt registered (.inr rfl))
  case awaits =>
    intro subscription member
    rcases List.mem_append.mp member with old | new
    · have older := keeps.orderly.subscriptions_lt subscription old
      exact (Function.update_of_ne (Nat.ne_of_lt older) ..).trans (keeps.told subscription old)
    · rw [List.mem_singleton.mp new]
      exact Function.update_self ..
  case agrees => exact fits.after

theorem close (keeps : Keeps custom ledger followed)
    (fits : ledger.Fits custom ⟨now, .close name⟩) :
    Keeps custom (ledger.take ⟨now, .close name⟩) (followed.take ⟨now, .close name⟩) := by
  cases registered : followed.registered name with
  | none =>
    have absent : name ∉ ledger.names := fun member => keeps.registered_of_mem member registered
    rw [ledger.take_close_of_not_mem now absent, take_close_of_none now registered]
    exact keeps
  | some change =>
    have router : (followed.take ⟨now, .close name⟩).router =
        followed.router.settle now change := by
      simp only [Followed.take, change?, registered]
    have told : followed.told ⟨now, .close name⟩ = followed.router.queuedBy now change := by
      simp [Followed.told, change?, registered]
    -- What another name takes back is another registration.
    have other {entry : N} {taken : Change I L}
        (stands : followed.registered entry = some taken) : entry = name ↔ taken = change := by
      refine ⟨fun same => ?_, fun same => ?_⟩
      · exact Option.some.inj ((same ▸ stands).symm.trans registered)
      · exact keeps.apart _ _ _ (same ▸ stands) registered
    have withdraws : change.Withdraws := by
      rcases keeps.taken registered with ⟨offer, -, rfl⟩ | ⟨subscription, -, rfl⟩ <;> trivial
    apply keeps.changed ⟨now, .close name⟩ (ledger.take _) change router told rfl
    case offers =>
      have stays (entry : N × Offer I) (offer : Offer I)
          (offers : Offers followed.registered entry offer)
          (left : decide (entry.1 ≠ name) = true) :
          Offers (Function.update followed.registered name none) entry offer :=
        offers_update (of_decide_eq_true left) offers
      cases change with
      | register | listen => exact withdraws.elim
      | unregister number =>
        refine filter_entries keeps.offers (fun entry offer offers => ?_) stays
        simpa using other offers.1
      | unlisten number =>
        show List.Forall₂ _ (ledger.offers.filter (·.1 ≠ name)) followed.router.offers
        rw [← List.filter_true followed.router.offers]
        refine filter_entries keeps.offers (fun entry offer offers => ?_) stays
        simpa using other offers.1
    case listeners =>
      have stays (entry : N × L) (subscription : Subscription L)
          (listens : Listens followed.registered entry subscription)
          (left : decide (entry.1 ≠ name) = true) :
          Listens (Function.update followed.registered name none) entry subscription :=
        listens_update (of_decide_eq_true left) listens
      cases change with
      | register | listen => exact withdraws.elim
      | unregister number =>
        show List.Forall₂ _ (ledger.listeners.filter (·.1 ≠ name)) followed.router.subscriptions
        rw [← List.filter_true followed.router.subscriptions]
        refine filter_entries keeps.listeners (fun entry subscription listens => ?_) stays
        simpa using other listens.1
      | unlisten number =>
        refine filter_entries keeps.listeners (fun entry subscription listens => ?_) stays
        simpa using other listens.1
    case entered =>
      intro entry (registered : Function.update followed.registered name _ entry ≠ none)
      rw [Ledger.mem_names_take_close]
      rw [Function.update_apply] at registered
      split at registered
      · exact absurd rfl registered
      · exact ⟨keeps.entered entry registered, ‹_›⟩
    case apart => exact apart_update keeps.apart nofun
    case awaits =>
      exact fun subscription member =>
        keeps.told subscription (mem_subscriptions_withdraw withdraws member)
    case agrees => exact fits.after

theorem miss (keeps : Keeps custom ledger followed) (fits : ledger.Fits custom ⟨now, .miss⟩) :
    Keeps custom ledger (followed.take ⟨now, .miss⟩) := by
  have same : followed.router.amend now (.unregister followed.router.nextNumber) =
      followed.router := by
    refine congrArg (fun offers => { followed.router with offers := offers }) ?_
    exact List.filter_eq_self.mpr fun offer member =>
      decide_eq_true (Nat.ne_of_lt (keeps.orderly.offers_lt offer member))
  apply keeps.changed ⟨now, .miss⟩ ledger _ rfl rfl rfl
  case offers =>
    show List.Forall₂ (Offers followed.registered) ledger.offers
      (followed.router.amend now (.unregister followed.router.nextNumber)).offers
    rw [same]
    exact keeps.offers
  case listeners => exact keeps.listeners
  case entered => exact keeps.entered
  case apart => exact keeps.apart
  case awaits => exact keeps.told
  case agrees => exact fits.after

/-- Whatever is done, the router goes on to have what the ledger has. -/
theorem take (keeps : Keeps custom ledger followed) (fits : ledger.Fits custom errand) :
    Keeps custom (ledger.take errand) (followed.take errand) := by
  obtain ⟨now, doing⟩ := errand
  cases doing with
  | register name implementation cost rpcs => exact keeps.register fits
  | listen name listener => exact keeps.listen fits
  | close name => exact keeps.close fits
  | miss => exact keeps.miss fits
  | updateSchema schema =>
    exact ⟨keeps.orderly.congr rfl rfl rfl rfl, rfl, keeps.offers, keeps.listeners, keeps.entered,
      keeps.apart, keeps.told, keeps.seen⟩

theorem after (keeps : Keeps custom ledger followed) (fit : ledger.FitAll custom errands) :
    Keeps custom (ledger.after errands) (followed.after errands) := by
  induction errands generalizing ledger followed with
  | nil => exact keeps
  | cons errand later ih => exact ih (keeps.take fit.1) fit.2

end

/-! What can be told of a router from the ledger. -/

theorem folded?_of_mem (keeps : Keeps custom ledger followed) {entry : N × L}
    (member : entry ∈ ledger.listeners) (lasts : custom.lasts entry.1) :
    followed.folded? entry.1 =
      some (followed.router.visible custom.accepts entry.2).toFinset := by
  obtain ⟨subscription, opened, registered, same⟩ := exists_entry keeps.listeners.flip member
  rw [folded?, registered, same, ← keeps.seen _ lasts subscription opened registered,
    ← keeps.told subscription opened]

theorem folded?_of_not_mem (keeps : Keeps custom ledger followed)
    (nobody : ∀ entry ∈ ledger.listeners, entry.1 ≠ name) : followed.folded? name = none := by
  unfold folded?
  split
  · rename_i number registered
    have member := keeps.entered name (by rw [registered]; exact nofun)
    rcases List.mem_append.mp member with offer | listener
    · obtain ⟨entry, inside, rfl⟩ := List.mem_map.mp offer
      obtain ⟨offer, -, takes, -⟩ := exists_entry keeps.offers.flip inside
      exact absurd (registered.symm.trans takes) nofun
    · obtain ⟨entry, inside, same⟩ := List.mem_map.mp listener
      exact absurd same (nobody entry inside)
  · rfl

theorem resembles {second : Followed N I L} (keeps : Keeps custom ledger followed)
    (keeps' : Keeps custom ledger second)
    (settings : second.router.settings = followed.router.settings) :
    followed.router.Resembles second.router where
  offers := (map_entries keeps'.offers fun _ _ offers => offers.2).symm.trans
    (map_entries keeps.offers fun _ _ offers => offers.2)
  schema := keeps'.schema.trans keeps.schema.symm
  settings := settings

/-- With one ledger, two routers cannot be told apart. -/
theorem alike {second : Followed N I L} (keeps : Keeps custom ledger followed)
    (keeps' : Keeps custom ledger second)
    (lasting : ∀ entry ∈ ledger.listeners, custom.lasts entry.1)
    (settings : second.router.settings = followed.router.settings) : Alike followed second := by
  have resembles := keeps.resembles keeps' settings
  constructor
  case choose => exact resembles.choose keeps.orderly keeps'.orderly
  case isAvailable => exact resembles.isAvailable keeps.orderly keeps'.orderly
  case available => exact resembles.mem_available keeps.orderly keeps'.orderly
  case folded =>
    intro name
    by_cases somebody : ∃ entry ∈ ledger.listeners, entry.1 = name
    · obtain ⟨entry, member, rfl⟩ := somebody
      have lasts := lasting entry member
      rw [keeps.folded?_of_mem member lasts, keeps'.folded?_of_mem member lasts, resembles.visible]
    · have nobody : ∀ entry ∈ ledger.listeners, entry.1 ≠ name :=
        fun entry member same => somebody ⟨entry, member, same⟩
      rw [keeps.folded?_of_not_mem nobody, keeps'.folded?_of_not_mem nobody]

end Keeps

variable [DecidableEq N] {errands : List (Errand N I L)}

theorem after_append (followed : Followed N I L) (first second : List (Errand N I L)) :
    followed.after (first ++ second) = (followed.after first).after second :=
  List.foldl_append

theorem toldOf_append (followed : Followed N I L) (first second : List (Errand N I L)) :
    followed.toldOf (first ++ second) =
      followed.toldOf first ++ (followed.after first).toldOf second := by
  induction first generalizing followed with
  | nil => rfl
  | cons errand later ih => exact (congrArg _ (ih _)).trans (List.append_assoc ..).symm

theorem settings_take (followed : Followed N I L) (errand : Errand N I L) :
    (followed.take errand).router.settings = followed.router.settings := by
  simp only [take]
  split
  · exact Router.settings_apply ..
  · rfl
  · rfl

theorem settings_after (followed : Followed N I L) (errands : List (Errand N I L)) :
    (followed.after errands).router.settings = followed.router.settings := by
  induction errands generalizing followed with
  | nil => rfl
  | cons errand later ih => exact (ih _).trans (followed.settings_take errand)

/-! Two uses of a router. -/

variable {settings : RouterSettings}

/-- Whatever comes to the same ledger cannot be told apart, if who listens in the end has accepted
implementations as for good. -/
theorem alike_of_ledger {others : List (Errand N I L)}
    (lasting : ∀ name, ((ofSettings settings).after errands).registered name ≠ none →
      custom.lasts name)
    (fit : (Ledger.ofSettings settings).FitAll custom errands)
    (fit' : (Ledger.ofSettings settings).FitAll custom others)
    (same : (Ledger.ofSettings settings).after others =
      (Ledger.ofSettings settings).after errands) :
    Alike ((ofSettings settings).after errands) ((ofSettings settings).after others) := by
  have keeps := (Keeps.ofSettings custom settings).after fit
  have keeps' := (Keeps.ofSettings custom settings).after fit'
  rw [same] at keeps'
  refine keeps.alike keeps' (fun entry member => ?_)
    ((settings_after _ _).trans (settings_after _ _).symm)
  exact lasting _ (keeps.registered_of_mem (List.mem_append_right _ (List.mem_map_of_mem member)))

/-- What is closed in the end may as well be left out. -/
theorem alike_without {out : Finset N}
    (lasting : ∀ name, ((ofSettings settings).after errands).registered name ≠ none →
      custom.lasts name)
    (fit : (Ledger.ofSettings settings).FitAll custom errands)
    (closed : ∀ name ∈ out, ((ofSettings settings).after errands).registered name = none) :
    Alike ((ofSettings settings).after errands)
      ((ofSettings settings).after (errands.filter (·.isBeside out))) := by
  have keeps := (Keeps.ofSettings custom settings).after fit
  have gone : ∀ name ∈ out, name ∉ ((Ledger.ofSettings settings).after errands).names :=
    fun name member inside => keeps.registered_of_mem inside (closed name member)
  refine alike_of_ledger lasting fit (fit.without out) ?_
  exact (Ledger.after_without _ errands out).trans (Ledger.without_of_closed gone)

/-- Registrations that are closed one after the other may be closed in any order. -/
theorem alike_reorder {earlier later : List (Errand N I L)} {names order : List N}
    (ordered : order.Perm names)
    (lasting : ∀ name, ((ofSettings settings).after
      (earlier ++ closings now names ++ later)).registered name ≠ none → custom.lasts name)
    (fit : (Ledger.ofSettings settings).FitAll custom (earlier ++ closings now names ++ later)) :
    Alike ((ofSettings settings).after (earlier ++ closings now names ++ later))
      ((ofSettings settings).after (earlier ++ closings now order ++ later)) := by
  obtain ⟨fit', same⟩ := fit.reorder ordered
  exact alike_of_ledger lasting fit fit' same

end Followed
end RpcRouting
