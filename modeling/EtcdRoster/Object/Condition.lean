import EtcdRoster.Json.Decoder

/-!
# Conditions

A condition reports one aspect of an object. Its transition time is the moment at which its status
last changed.
-/

namespace EtcdRoster

open Json Json.Record

structure Condition where
  type : String
  status : String
  reason : Option String := none
  message : Option String := none
  lastTransitionTime : Option String := none
deriving DecidableEq, Inhabited

namespace Condition

def decode : Json.Decoder Condition :=
  listDecoder "Condition" <|
    Condition.mk <$> required text "type"
      <*> required text "status"
      <*> optional text "reason"
      <*> optional text "message"
      <*> optional text "lastTransitionTime"

def ofJson? (j : Json) : Option Condition := (Condition.decode j).toOption

def toJson (c : Condition) : Json :=
  Json.record [
    ("lastTransitionTime", c.lastTransitionTime.map .str),
    ("message", c.message.map .str),
    ("reason", c.reason.map .str),
    ("status", some (.str c.status)),
    ("type", some (.str c.type))]

end Condition

end EtcdRoster
