import Mathlib.Data.String.Basic

namespace DockerizedLambda

abbrev Bytes := List UInt8

structure ResponseParts where
  status : Nat
  headers : List (String × String)
deriving DecidableEq, Repr

structure Response where
  parts : ResponseParts
  body : Bytes
deriving DecidableEq, Repr

end DockerizedLambda
