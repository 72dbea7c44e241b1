import FenceCheck.Bundle.Locate
import FenceCheck.Diagnostic
import FenceCheck.Session.Launch
import FenceCheck.Source.Reference

/-!
Turning a block into one piece of code that the sandbox can run. Plain script that refers to built-in
modules alone is run as it is; the bundler translates TypeScript and draws in other modules.
-/

namespace FenceCheck

/-- Code that the sandbox can run. -/
structure Runnable where
  code : Text
  /-- The name under which errors are reported. -/
  filename : Text
  transpiled : Bool
  bundled : Bool
  deriving DecidableEq, Repr

namespace Bundler

def filename (block : Block) : Text := placeText block.origin.name block.line

/-- The name of a block, whose line has to have few enough digits to be written. -/
def named (block : Block) : Except Failure Text :=
  Failure.showing (Integer.isShort block.line) (filename block)

def words (config : Config) (program : Text) (block : Block) (bundle : Bool) : List Text :=
  let loader : Text := if block.isTypeScript then "ts" else "js"
  let resolving : List Text := if bundle then ["--bundle", "--platform=node"] else []
  [program, Text.ofString "--loader=" ++ loader, "--format=cjs",
    Text.ofString "--target=" ++ config.target, "--log-level=error", "--charset=utf8",
    Text.ofString "--sourcefile=" ++ filename block] ++ resolving

/-- Whether a block refers to modules that have to be drawn in. -/
def mustBundle (config : Config) (block : Block) : Bool :=
  Source.needsBundling block.source config.allowedModules

def directoryOf (machine : Machine) (block : Block) : Except Failure Path :=
  (machine.files.resolve? block.origin.parent).mapError .file

def launch (machine : Machine) (config : Config) (block : Block) : Except Failure Launch := do
  let directory ← directoryOf machine block
  match ← locate machine directory config.esbuild with
  | none =>
      throw (.bundling (Text.ofString "esbuild executable not found; install esbuild or set " ++
        locationVariable))
  | some program =>
      -- A bundler that is missing is told of before a limit that cannot be kept.
      match config.bundleTimeout.thousandth with
      | none => throw .numberTooLarge
      | some limit =>
          return {
            words := words config program block (mustBundle config block)
            directory, limit := .real limit, input := block.source }

/-- What a finished bundler's code, output and errors mean. -/
def codeOf (config : Config) (finished : Finished) : Except Failure Text :=
  -- A limit that a program was stopped at has a floating-point form, so it is short enough to be told.
  if finished.timedOut then
    .error (.bundling (Text.ofString "Bundling timed out after " ++ config.bundleTimeout.toText ++
      Text.ofString "ms"))
  else if finished.code ≠ 0 then
    match Diagnostic.clean finished.errors with
    | [] => .error (.bundling (Text.ofString "esbuild exited with code " ++ Text.ofInt finished.code))
    | message => .error (.bundling message)
  else .ok finished.output

/-- Where the operating system refuses to start the bundler, that concerns the block alone. -/
def ofStartFault : Failure → Failure
  | .unstarted fault =>
      if fault.isRefusal then
        .bundling (Text.ofString "unable to start esbuild: " ++ fault.message)
      else .unstarted fault
  | failure => failure

def prepare (machine : Machine) (config : Config) (context : Option Context) (block : Block) :
    Work Runnable := do
  let filename ← Work.ofExcept (named block)
  let transpiled := block.isTypeScript
  let bundled := mustBundle config block
  if !transpiled && !bundled then
    return { code := block.source, filename, transpiled, bundled }
  let launch ← Work.ofExcept (launch machine config block)
  let finished ← tryCatch (launch.perform machine context) fun failure =>
    throw (ofStartFault failure)
  let code ← Work.ofExcept (codeOf config finished)
  return { code, filename, transpiled, bundled }

end Bundler

end FenceCheck
