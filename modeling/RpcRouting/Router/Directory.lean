import RpcRouting.Identifier
/-! The directory of a router: a page for every type, with the implementations that serve it without a
context and those that serve it in each context, the best one first. It is made afresh from the open
registrations whenever they change. -/
namespace RpcRouting

/-- An open registration of an implementation. Its cost is the one it had when it was
registered. -/
structure Offer (I : Type) where
  registration : Nat
  cost : Nat
  implementation : I
  rpcs : List Current.Identifier

structure Candidate (I : Type) where
  registration : Nat
  cost : Nat
  implementation : I
deriving DecidableEq

variable {I : Type}

def Offer.candidate (offer : Offer I) : Candidate I :=
  ⟨offer.registration, offer.cost, offer.implementation⟩

/-- Changes what stands for a key. Where nothing stands yet, it changes a value to begin with. -/
def amendAt {K V : Type} [DecidableEq K] (begin : V) (change : V → V) (key : K) :
    List (K × V) → List (K × V)
  | [] => [(key, change begin)]
  | (other, value) :: rest =>
    if other = key then (other, change value) :: rest
    else (other, value) :: amendAt begin change key rest

namespace Candidate

/-- The cheaper candidate is better, and of equally cheap ones the one registered earlier. -/
def Better (a b : Candidate I) : Prop :=
  a.cost < b.cost ∨ a.cost = b.cost ∧ a.registration < b.registration

instance (a b : Candidate I) : Decidable (a.Better b) :=
  inferInstanceAs (Decidable (_ ∨ _))

/-- Puts a candidate before the first one than which it is better. -/
def insert (candidate : Candidate I) : List (Candidate I) → List (Candidate I)
  | [] => [candidate]
  | first :: rest =>
    if candidate.Better first then candidate :: first :: rest else first :: insert candidate rest

/-- The candidates with the better ones first. Those of which none is better stay in their order. -/
def rank (found : List (Candidate I)) : List (Candidate I) :=
  found.foldl (fun ranked candidate => candidate.insert ranked) []

/-- Adds a candidate to others. A registration counts once. -/
def addTo (candidate : Candidate I) (found : List (Candidate I)) : List (Candidate I) :=
  if found.any (·.registration = candidate.registration) then found else found ++ [candidate]

end Candidate

/-- The candidates for one type, for a call without a context and for calls in each context. -/
structure Page (I : Type) where
  global : List (Candidate I)
  routed : List (InstancePath × List (Candidate I))

namespace Page

def empty : Page I := ⟨[], []⟩

def add (candidate : Candidate I) (page : Page I) : Option InstancePath → Page I
  | none => { page with global := candidate.addTo page.global }
  | some context => { page with routed := amendAt [] candidate.addTo context page.routed }

def rank (page : Page I) : Page I where
  global := Candidate.rank page.global
  routed := page.routed.map fun (context, found) => (context, Candidate.rank found)

def candidates (page : Page I) : Option InstancePath → List (Candidate I)
  | none => page.global
  | some context => (page.routed.lookup context).getD []

def available (type : SchemaPath) (page : Page I) : List Current.Identifier :=
  (if page.global.isEmpty then [] else [.global type]) ++
    page.routed.map fun (context, _) => .create type (some context)

end Page

structure Directory (I : Type) where
  pages : List (SchemaPath × Page I)

namespace Directory

def empty : Directory I := ⟨[]⟩

def add (directory : Directory I) (rpc : Current.Identifier) (candidate : Candidate I) :
    Directory I :=
  ⟨amendAt .empty (·.add candidate rpc.context?) rpc.type directory.pages⟩

def addOffer (directory : Directory I) (offer : Offer I) : Directory I :=
  offer.rpcs.foldl (·.add · offer.candidate) directory

def rank (directory : Directory I) : Directory I :=
  ⟨directory.pages.map fun (type, page) => (type, page.rank)⟩

/-- What offers declare, in their order. -/
def collect (offers : List (Offer I)) : Directory I := offers.foldl addOffer empty

def ofOffers (offers : List (Offer I)) : Directory I := (collect offers).rank

/-- The candidates for an identifier, the best one first. -/
def candidates (directory : Directory I) (rpc : Current.Identifier) : List (Candidate I) :=
  ((directory.pages.lookup rpc.type).getD .empty).candidates rpc.context?

def best? (directory : Directory I) (rpc : Current.Identifier) : Option (Candidate I) :=
  (directory.candidates rpc).head?

def isAvailable (directory : Directory I) (rpc : Current.Identifier) : Bool :=
  (directory.best? rpc).isSome

def available (directory : Directory I) : List Current.Identifier :=
  directory.pages.flatMap fun (type, page) => page.available type

/-- Whether anything serves this type, in whatever context. -/
def serves (directory : Directory I) (type : SchemaPath) : Bool :=
  (directory.pages.lookup type).isSome

end Directory

end RpcRouting
