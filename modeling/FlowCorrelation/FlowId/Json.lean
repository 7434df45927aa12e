import FlowCorrelation.FlowId.Basic
import FlowCorrelation.Json.Reader

namespace FlowCorrelation.FlowId

def ofJson? (j : Json) : Option FlowId := j.asText?.bind (fun raw ↦ (parse raw).toOption)

def read? (text : String) : Option FlowId := (Json.read? text).bind ofJson?

def toJson (id : FlowId) : Json := .text id.text

end FlowCorrelation.FlowId
