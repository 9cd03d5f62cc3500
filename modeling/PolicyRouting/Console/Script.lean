import PolicyRouting.Console.Files

/-!
# Scripts over files

A script says which files it reads and saves, one after the other, and how it
goes on with each answer.  Run over a file tree it is a function, so that what
a command does can be stated without the world outside.
-/

namespace PolicyRouting.Console

inductive SaveFault where
  | directories (cause : FileFault)
  | content (cause : FileFault)
  deriving DecidableEq, Repr

def FileTree.save (tree : FileTree) (path content : String) : Except SaveFault Unit × FileTree :=
  match tree.makeParents path with
  | .error cause => (.error (.directories cause), tree)
  | .ok made =>
      match made.target path with
      | .error cause => (.error (.content cause), made)
      | .ok place => (made.write place content).map (·.mapError .content) id

inductive Script (α : Type) where
  | done (result : α)
  | read (path : String) (next : Except FileFault String → Script α)
  | save (path content : String) (next : Except SaveFault Unit → Script α)

namespace Script

variable {α β : Type}

def andThen (script : Script α) (f : α → Script β) : Script β :=
  match script with
  | done result => f result
  | read path next => .read path fun answer => (next answer).andThen f
  | save path content next => .save path content fun answer => (next answer).andThen f

instance : Monad Script where
  pure := .done
  bind := andThen

def readFile (path : String) : Script (Except FileFault String) := .read path .done

def saveFile (path content : String) : Script (Except SaveFault Unit) := .save path content .done

def runOn (tree : FileTree) : Script α → α × FileTree
  | done result => (result, tree)
  | read path next => runOn tree (next (tree.read path))
  | save path content next =>
      let (answer, tree) := tree.save path content
      runOn tree (next answer)

@[simp] theorem runOn_done (tree : FileTree) (a : α) : runOn tree (done a) = (a, tree) := rfl

@[simp] theorem runOn_pure (tree : FileTree) (a : α) : runOn tree (pure a) = (a, tree) := rfl

@[simp] theorem runOn_bind (tree : FileTree) (script : Script α) (f : α → Script β) :
    runOn tree (script >>= f) = runOn (runOn tree script).2 (f (runOn tree script).1) := by
  show runOn tree (andThen script f) = _
  induction script generalizing tree with
  | done => rfl
  | read path next ih => simp only [andThen, runOn]; exact ih _ _
  | save path content next ih => simp only [andThen, runOn]; exact ih _ _

@[simp] theorem runOn_readFile (tree : FileTree) (path : String) :
    runOn tree (readFile path) = (tree.read path, tree) := rfl

@[simp] theorem runOn_saveFile (tree : FileTree) (path content : String) :
    runOn tree (saveFile path content) = tree.save path content := rfl

end Script

end PolicyRouting.Console
