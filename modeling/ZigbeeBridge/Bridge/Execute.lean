import ZigbeeBridge.Bridge.Error
import ZigbeeBridge.Bridge.Refresh
import ZigbeeBridge.Bus.Command
import ZigbeeBridge.Bus.Report
import ZigbeeBridge.Gateway.Client

/-!
Carrying out a command: the change is sent, and what the gateway then tells of the device is the
event.
-/
namespace ZigbeeBridge.Bridge

open Bus Dialogue Gateway

def sendCommand (client : Client) (command : Command) : Attempt Error Unit :=
  match command.target with
  | .light => calling (client.setLight command.id command.change)
  | .group => calling (client.setGroup command.id command.change)

def readBack (client : Client) (command : Command) : Attempt Error Event :=
  match command.target with
  | .light => ofLight <$> calling (client.getLight command.id)
  | .group => ofGroup <$> calling (client.getGroup command.id)

def executeCommand (client : Client) (command : Command) : Attempt Error Event := do
  sendCommand client command
  readBack client command

end ZigbeeBridge.Bridge
