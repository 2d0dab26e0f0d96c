import Workbench.Command.Definition
import Workbench.Text.Json
import Workbench.Text.Quoted
import Workbench.Tree.Change
import Workbench.Workspace
namespace Workbench

/-!
What commands act on.  The world is the tree of files together with the memory:
text variables, kept apart by store and, within a store, by workspace.  A host is
what a process is given from outside and no command changes: the directory it
stands in, its own variables, a way to the network and a way to start programs.
An environment is one caller's view: a host, the text that names the workspace,
and the store in use.
-/

/-- A request to a service on the network. -/
structure Request where
  /-- The address, with the question's fields encoded into it. -/
  address : String
  /-- Fields sent beside the address. -/
  headers : List (String × String)
  /-- The value sent as the request's body. -/
  body : Option Json
  /-- How long an answer may take, in milliseconds. -/
  patience : Nat

/-- How a request ends. -/
inductive Exchange where
  | unreachable
  /-- The service turns the request down. -/
  | refused (status text : String)
  /-- The service's answer is no structured value. -/
  | garbled (complaint : String)
  | answered (value : Json)

/-- A program to start. -/
structure Launch where
  program : String
  arguments : List String
  directory : String
  /-- How long its end is waited for, in milliseconds. -/
  patience : Nat

/-- What a program leaves behind. -/
structure Finished where
  /-- The exit code; a program that a signal ends has none. -/
  code : Option Nat
  output : ByteArray
  complaints : ByteArray
  /-- How long it ran, in milliseconds. -/
  duration : Nat

/-- What a process is given from outside.  The process stands in a directory, and all of this is
UTF-8. -/
structure Host where
  /-- The names of the directory in which the process stands. -/
  standing : List String
  /-- The variables that the process was started with. -/
  bindings : List (String × String)
  fetch : Request → Exchange
  launch : Launch → Node → Except Cause (Finished × Node)

/-- One caller's view of the world. -/
structure Environment where
  host : Host
  /-- The text that names the workspace.  Being a text it is UTF-8, and so is the root that it
  leads to: no root is shown with anything replaced in it. -/
  directory : String
  /-- The number of the store in use. -/
  store : Nat

/-- Variables by store and workspace; workspaces are told apart by components. -/
abbrev Memory := Nat → List Path.Component → Dictionary String

namespace Memory

def empty : Memory :=
  fun _ _ => Dictionary.empty

/-- The memory with other variables for one workspace of one store. -/
def update (memory : Memory) (store : Nat) (workspace : List Path.Component)
    (bindings : Dictionary String) : Memory :=
  fun otherStore otherWorkspace =>
    if otherStore = store ∧ otherWorkspace = workspace then bindings
    else memory otherStore otherWorkspace

end Memory

/-- The tree of files and the memory. -/
structure World where
  tree : Node
  memory : Memory

namespace Environment

def root (environment : Environment) : Place :=
  Workspace.root environment.host.standing environment.directory

def resolve (environment : Environment) (input : String) : Except Failure Place :=
  Workspace.resolve environment.root input

/-- How a place is shown to the caller. -/
def display (environment : Environment) (place : Place) : String :=
  Workspace.display environment.root place

def bindings (environment : Environment) (world : World) : Dictionary String :=
  world.memory environment.store environment.root.components

def value? (environment : Environment) (world : World) (key : String) : Option String :=
  (environment.bindings world).get? key

/-- The world with other variables for the environment's workspace. -/
def withBindings (environment : Environment) (world : World) (bindings : Dictionary String) :
    World :=
  { world with
    memory := world.memory.update environment.store environment.root.components bindings }

def setVariable (environment : Environment) (world : World) (key value : String) : World :=
  environment.withBindings world ((environment.bindings world).insert key value)

def removeVariable (environment : Environment) (world : World) (key : String) : World :=
  environment.withBindings world ((environment.bindings world).erase key)

/-- A short listing of an environment for inspection. -/
def inspect (environment : Environment) : String :=
  "Environment \x7b cwd: " ++ Quoted.quote .both environment.directory ++ " \x7d"

end Environment

/-- What a tool does: given the caller's view and the arguments, it turns a world
into a report or a failure and the world afterwards. -/
abbrev Action := Environment → Arguments → World → Except Failure String × World

end Workbench
